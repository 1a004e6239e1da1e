import Mathlib.Data.List.Nodup
import TextSocket.Proofs.Upgrade.Handshake

/-!
# `Proofs.Upgrade.Merge` — the request carries the merged fields

A client lets configured fields take the place of its own, takes the five fields of the handshake out of the result one
by one, and writes what is left behind them. Each step moves fields about. **Nothing is lost, doubled or put beside
another name** (`dial_merges`): the handshake has one line for each of its five names, and every other name has exactly
the lines that were configured for it. A value that cannot be written is found before anything is put on the stream, so
**a request is sent as a whole or not at all**.

## Contents

* `lines_eq`, `legible_of_lines` — what has been written when lines were written;
* `Sendable`, `legible_merge_iff` — configured fields that can be written;
* `handshakeLines`, `otherLines`, `merged_lines` — the lines of a merged request;
* `hostPart_authority` — the host that a client has of its own;
* `send_unwritten`, `start_unwritten` — requests that are not sent;
* `dial_merges` — the main result.
-/

namespace TextSocket.Upgrade.Offer

open Header (Name Value Field Fields)
open Header.Fields (valuesIn)

/-! ## What has been written -/

/-- **What lines are once they have been written**: first values, and the lines of what is left. -/
theorem lines_eq {offer : Offer} {lines : List (Bytes × Bytes)} (h : offer.lines = .ok lines) :
    ∃ first, ∃ left : Fields, List.Forall₂ (WritesFirst offer.fields) firstNames first ∧
      (∀ name, left.values name = if name ∈ firstNames.map Prod.fst then [] else offer.fields.values name) ∧
      (∀ field ∈ left.toList, field.2.isPrintable = true) ∧ lines = first ++ left.toList.map lineOf := by
  unfold Offer.lines at h
  obtain ⟨⟨first, left⟩, hfirst, h⟩ := ok_of_bind h
  obtain ⟨others, hothers, h⟩ := ok_of_bind h
  cases h
  obtain ⟨hwrites, hleft⟩ := writeFirst_eq (by decide) hfirst
  obtain ⟨hprintable, rfl⟩ := mapM_fieldLine_eq hothers
  exact ⟨first, left, hwrites, hleft, hprintable, rfl⟩

/-- **Only fields that can be written have been written.** -/
theorem legible_of_lines {offer : Offer} {lines : List (Bytes × Bytes)} (h : offer.lines = .ok lines) :
    Legible offer.fields := by
  obtain ⟨first, left, hfirst, hleft, hprintable, rfl⟩ := lines_eq h
  constructor
  · intro entry hentry
    obtain ⟨line, value, hvalue, hfits, -⟩ := Header.exists_of_forall₂ hfirst entry hentry
    exact ⟨value, hvalue, hfits⟩
  · intro name hname value hvalue
    have hmem : value ∈ left.values name := by rwa [hleft, if_neg hname]
    exact hprintable (name, value) (mem_toList.2 hmem)

/-! ## Configured fields that can be written -/

/-- The names of the handshake. -/
def handshakeNames : List Name := [.host, .connection, .upgrade, .socketVersion, .socketKey]

theorem map_firstNames : firstNames.map Prod.fst = handshakeNames := rfl

/-- **Configured fields that can be sent**: each value that is written is printable. Of a name of the handshake only the
    first value is written. -/
def Sendable (configured : Fields) : Prop :=
  ∀ pair ∈ configured.toList, (pair.1 ∈ handshakeNames → configured.get? pair.1 = some pair.2) →
    pair.2.isPrintable = true

instance (configured : Fields) : Decidable (Sendable configured) :=
  inferInstanceAs (Decidable (∀ pair ∈ configured.toList, (pair.1 ∈ handshakeNames →
    configured.get? pair.1 = some pair.2) → pair.2.isPrintable = true))

section merged

variable {own : Own} {configured : Fields}

theorem map_pairs (own : Own) : own.pairs.map Prod.fst = handshakeNames := rfl

/-- A client has nothing of its own for other names. -/
theorem values_merge_of_not_mem {name : Name} (hname : name ∉ handshakeNames) :
    (own.merge configured).values name = configured.values name := by
  have hnone : valuesIn own.pairs name = [] := by
    rw [valuesIn, List.filterMap_eq_nil_iff]
    intro pair hpair
    apply if_neg
    rintro rfl
    exact hname (map_pairs own ▸ List.mem_map_of_mem hpair)
  rw [own.values_merge, hnone]
  split_ifs with h
  · exact h.symm
  · rfl

theorem get?_merge (own : Own) (configured : Fields) (name : Name) :
    (own.merge configured).get? name = (configured.get? name).or ((Fields.ofList own.pairs).get? name) :=
  Fields.get?_override _ name configured

/-- It has one value for each name of the handshake. -/
theorem get?_own (own : Own) {name : Name} (hname : name ∈ handshakeNames) :
    ∃ value, (name, value) ∈ own.pairs ∧ (Fields.ofList own.pairs).get? name = some value := by
  simp only [handshakeNames, List.mem_cons, List.not_mem_nil, or_false] at hname
  rcases hname with rfl | rfl | rfl | rfl | rfl
  · exact ⟨own.host, by simp [Own.pairs], rfl⟩
  · exact ⟨own.connection, by simp [Own.pairs], rfl⟩
  · exact ⟨own.upgrade, by simp [Own.pairs], rfl⟩
  · exact ⟨own.version, by simp [Own.pairs], rfl⟩
  · exact ⟨own.key, by simp [Own.pairs], rfl⟩

/-- **The merged fields can be written exactly if the configured ones can be sent.** -/
theorem legible_merge_iff (hown : ∀ pair ∈ own.pairs, pair.2.isPrintable = true) :
    Legible (own.merge configured) ↔ Sendable configured := by
  constructor
  · rintro ⟨hfirst, hothers⟩ ⟨name, value⟩ hpair hwritten
    by_cases hname : name ∈ handshakeNames
    · obtain ⟨entry, hentry, rfl⟩ := List.mem_map.1 (map_firstNames ▸ hname)
      obtain ⟨written, hget, hprintable⟩ := hfirst entry hentry
      rw [get?_merge, hwritten hname] at hget
      cases hget
      exact hprintable
    · apply hothers name hname
      rw [values_merge_of_not_mem hname]
      exact mem_toList.1 hpair
  · intro h
    constructor
    · intro entry hentry
      have hname : entry.1 ∈ handshakeNames := map_firstNames ▸ List.mem_map_of_mem hentry
      obtain ⟨mine, hmine, hget⟩ := get?_own own hname
      rw [get?_merge, hget]
      cases hconfigured : configured.get? entry.1 with
      | none => exact ⟨mine, rfl, hown _ hmine⟩
      | some value =>
        refine ⟨value, rfl, h (entry.1, value) ?_ fun _ => hconfigured⟩
        exact mem_toList.2 (List.mem_of_mem_head? hconfigured)
    · intro name hname value hvalue
      rw [values_merge_of_not_mem hname] at hvalue
      exact h (name, value) (mem_toList.2 hvalue) fun hmem => absurd hmem hname

end merged

/-! ## The lines of a merged request -/

/-- A line of the handshake: the first configured value of its name, or what a client has of its own. -/
def handshakeLine (configured : Fields) (name : Name) (spelled : String) (mine : Bytes) : Bytes × Bytes :=
  (Bytes.ofText spelled, ((configured.get? name).map Value.bytes).getD mine)

/-- **The lines of the handshake.** -/
def handshakeLines (configured : Fields) (host key : Bytes) : List (Bytes × Bytes) :=
  [handshakeLine configured .host "Host" host,
    handshakeLine configured .connection "Connection" (Bytes.ofText "Upgrade"),
    handshakeLine configured .upgrade "Upgrade" (Bytes.ofText "websocket"),
    handshakeLine configured .socketVersion "Sec-WebSocket-Version" version,
    handshakeLine configured .socketKey "Sec-WebSocket-Key" key]

/-- **The lines of other names**: one for each value, the values of a name one behind the other. -/
def otherLines (others : List Field) : List (Bytes × Bytes) :=
  others.flatMap fun field => field.values.map fun value => (Bytes.ofText (spelling field.name), value.bytes)

theorem map_lineOf_toList (fields : Fields) : fields.toList.map lineOf = otherLines fields.entries := by
  rw [Fields.toList, List.map_flatMap, otherLines]
  simp only [List.map_map]
  rfl

/-- How often a field is written in some lines. A line may spell its name in any letter case. -/
def occurrences (lines : List (Bytes × Bytes)) (name : Name) (value : Value) : Nat :=
  lines.countP fun line => Name.ofBytes? line.1 = some name ∧ line.2 = value.bytes

theorem occurrences_map_lineOf (pairs : List (Name × Value)) (name : Name) (value : Value) :
    occurrences (pairs.map lineOf) name value = pairs.count (name, value) := by
  rw [occurrences, List.countP_map, List.count]
  congr 1
  funext pair
  have hsame : pair.2.bytes = value.bytes ↔ pair.2 = value := ⟨Value.eq_of_bytes, congrArg Value.bytes⟩
  rw [Function.comp_apply, lineOf, ofBytes?_spelling, Bool.eq_iff_iff, decide_eq_true_iff, beq_iff_eq,
    Prod.ext_iff, Option.some_inj, hsame]

section lines

variable {own : Own} {host key : Bytes} {configured : Fields}

theorem eq_handshakeLine {name : Name} {spelled : String} {mine : Value} {line : Bytes × Bytes}
    (hmine : (Fields.ofList own.pairs).get? name = some mine)
    (h : WritesFirst (own.merge configured) (name, spelled) line) :
    line = handshakeLine configured name spelled mine.bytes := by
  obtain ⟨value, hvalue, -, rfl⟩ := h
  rw [get?_merge, hmine] at hvalue
  have hbytes : value.bytes = ((configured.get? name).map Value.bytes).getD mine.bytes := by
    cases hconfigured : configured.get? name
    all_goals
      rw [hconfigured] at hvalue
      cases hvalue
      rfl
  rw [handshakeLine, hbytes]

/-- The first lines of a merged request are those of the handshake. -/
theorem eq_handshakeLines (hown : own.Says host key) {first : List (Bytes × Bytes)}
    (h : List.Forall₂ (WritesFirst (own.merge configured)) firstNames first) :
    first = handshakeLines configured host key := by
  have own_host : (Fields.ofList own.pairs).get? .host = some own.host := rfl
  have own_connection : (Fields.ofList own.pairs).get? .connection = some own.connection := rfl
  have own_upgrade : (Fields.ofList own.pairs).get? .upgrade = some own.upgrade := rfl
  have own_version : (Fields.ofList own.pairs).get? .socketVersion = some own.version := rfl
  have own_key : (Fields.ofList own.pairs).get? .socketKey = some own.key := rfl
  unfold firstNames at h
  obtain _ | ⟨hhost, _ | ⟨hconnection, _ | ⟨hupgrade, _ | ⟨hversion, _ | ⟨hkey, _ | _⟩⟩⟩⟩⟩ := h
  rw [eq_handshakeLine own_host hhost, eq_handshakeLine own_connection hconnection,
    eq_handshakeLine own_upgrade hupgrade, eq_handshakeLine own_version hversion, eq_handshakeLine own_key hkey,
    hown.host, hown.connection, hown.upgrade, hown.version, hown.key]
  rfl

/-- What is left of the merged fields is what is configured for other names. -/
theorem perm_left {left : Fields} (hleft : ∀ name, left.values name = if name ∈ handshakeNames then []
      else (own.merge configured).values name) :
    left.entries.Perm (configured.entries.filter fun field => field.name ∉ handshakeNames) := by
  have hnodup {entries : List Field} (h : (entries.map Field.name).Nodup) : entries.Nodup := List.Nodup.of_map _ h
  rw [List.perm_ext_iff_of_nodup (hnodup left.nodup) ((hnodup configured.nodup).filter _)]
  intro field
  rw [List.mem_filter, Fields.mem_iff_valuesAt left.nodup, Fields.mem_iff_valuesAt configured.nodup,
    ← Fields.values_eq, ← Fields.values_eq, hleft]
  by_cases hname : field.name ∈ handshakeNames
  · simp [hname, Field.values]
  · simp [hname, values_merge_of_not_mem hname]

/-- No line of the handshake has another name. -/
theorem occurrences_handshakeLines {name : Name} (hname : name ∉ handshakeNames) (value : Value) :
    occurrences (handshakeLines configured host key) name value = 0 := by
  have spelled : ∀ entry ∈ firstNames, Name.ofBytes? (Bytes.ofText entry.2) = some entry.1 := by decide
  have names : (handshakeLines configured host key).map Prod.fst
      = firstNames.map fun entry => Bytes.ofText entry.2 := rfl
  rw [occurrences, List.countP_eq_zero]
  intro line hline hwritten
  obtain ⟨hread, -⟩ := of_decide_eq_true hwritten
  obtain ⟨entry, hentry, hline⟩ := List.mem_map.1 (names ▸ List.mem_map_of_mem (f := Prod.fst) hline)
  rw [← hline, spelled entry hentry] at hread
  cases hread
  exact hname (map_firstNames ▸ List.mem_map_of_mem hentry)

/-- **The lines of an offer with merged fields**, if it has any: those of the handshake, and those that are configured
    for other names, each as often as it is configured. -/
theorem merged_lines {offer : Offer} (hfields : offer.fields = own.merge configured)
    (hown : own.Says host key) {lines : List (Bytes × Bytes)} (h : offer.lines = .ok lines) :
    ∃ others : List Field, others.Perm (configured.entries.filter fun field => field.name ∉ handshakeNames) ∧
      lines = handshakeLines configured host key ++ otherLines others ∧
      ∀ name value, name ∉ handshakeNames → occurrences lines name value = configured.toList.count (name, value) := by
  obtain ⟨first, left, hfirst, hleft, -, rfl⟩ := lines_eq h
  rw [hfields] at hfirst hleft
  have hfirst := eq_handshakeLines hown hfirst
  refine ⟨left.entries, perm_left hleft, ?_, fun name value hname => ?_⟩
  · rw [hfirst, map_lineOf_toList]
  · have hvalues : left.values name = configured.values name := by
      rw [hleft, map_firstNames, if_neg hname, values_merge_of_not_mem hname]
    have happend : occurrences (first ++ left.toList.map lineOf) name value
        = occurrences first name value + occurrences (left.toList.map lineOf) name value := List.countP_append
    rw [happend, hfirst, occurrences_handshakeLines hname, occurrences_map_lineOf, Nat.zero_add,
      ← Fields.count_valuesIn, ← Fields.count_valuesIn, Fields.valuesIn_toList, Fields.valuesIn_toList, hvalues]

end lines

/-! ## The request -/

/-- The host that a client has of its own is what stands behind the credentials. -/
theorem hostPart_authority {front rest : String} (hfront : Url.IsFront front) (hrest : Url.Bare rest) :
    hostPart (Bytes.ofText (front ++ rest)) = Bytes.ofText rest := by
  have hplain {text : String} (h : '@' ∉ text.toList) : (64 : UInt8) ∉ Bytes.ofText text := by
    intro hmem
    obtain ⟨c, hc, hbyte⟩ := Bytes.mem_ofText hmem (by decide)
    have hsign : c = '@' := Char.toNat_inj.1 hbyte
    exact h (hsign ▸ hc)
  have hrest64 : (64 : UInt8) ∉ Bytes.ofText rest := hplain fun hmem => hrest '@' hmem (by decide)
  rcases hfront.ends with rfl | ⟨text, rfl, htext⟩
  · rw [String.empty_append, hostPart, if_neg (by simpa using hrest64)]
  · have sign : Bytes.ofText "@" = [64] := by decide
    have shape : Bytes.ofText (text ++ "@" ++ rest) = Bytes.ofText text ++ 64 :: Bytes.ofText rest := by
      rw [Bytes.ofText_append, Bytes.ofText_append, sign, List.append_assoc]
      rfl
    have hfront64 : ∀ b ∈ Bytes.ofText text, (b != 64) = true := by
      intro b hb
      rw [bne_iff_ne]
      rintro rfl
      exact hplain htext hb
    rw [shape, hostPart, if_pos (by simp), List.dropWhile_append_of_pos hfront64]
    rfl

/-- A request can be written if its lines can. -/
theorem render_of_lines {offer : Offer} {lines : List (Bytes × Bytes)} (h : offer.lines = .ok lines) :
    ∃ expected, offer.render = .ok (Http.Request.render .get offer.target.pathAndQuery lines, expected) := by
  have hlegible := legible_of_lines h
  obtain ⟨key, hkey⟩ : ∃ key, offer.key = .ok key := by
    obtain ⟨value, hvalue, hprintable⟩ := hlegible.first (.socketKey, "Sec-WebSocket-Key") (by decide)
    refine ⟨value.bytes, ?_⟩
    rw [Offer.key, hvalue]
    exact if_pos hprintable
  obtain ⟨subprotocols, hsubprotocols⟩ : ∃ subprotocols, offer.subprotocols = .ok subprotocols := by
    unfold subprotocols
    cases hvalue : offer.fields.get? .socketProtocol with
    | none => exact ⟨none, rfl⟩
    | some value =>
      have hprintable := hlegible.others .socketProtocol (by decide) value (List.mem_of_mem_head? hvalue)
      exact ⟨_, if_pos hprintable⟩
  refine ⟨⟨acceptOf key, subprotocols⟩, ?_⟩
  rw [render, hsubprotocols, hkey, h]
  rfl

theorem lines_of_render {offer : Offer} {head : Bytes} {expected : Expectation}
    (h : offer.render = .ok (head, expected)) : ∃ lines, offer.lines = .ok lines := by
  obtain ⟨subprotocols, -, h⟩ := ok_of_bind h
  obtain ⟨key, -, h⟩ := ok_of_bind h
  obtain ⟨lines, hlines, -⟩ := ok_of_bind h
  exact ⟨lines, hlines⟩

end TextSocket.Upgrade.Offer

namespace TextSocket.Dial

open Header (Name Value Field Fields)
open Net (Wire)
open Upgrade (Offer keyOf)
open Upgrade.Offer (Sendable handshakeNames handshakeLines otherLines occurrences)

/-! ## Requests that are not sent -/

section unwritten

variable {offer : Offer} {cause : Socket.Error}

/-- A request that cannot be written leaves the stream as it is. -/
theorem send_unwritten (hscheme : offer.target.scheme = some (Bytes.ofText "ws"))
    (hrender : offer.render = .error cause) (wire : Wire) : send offer wire = (.error cause, wire) := by
  have hmode : offer.mode = .ok .plain := if_pos hscheme
  simp only [send, hmode, hrender]

/-- A client that cannot send its request fails, whatever host it dials. -/
theorem start_unwritten {config : Config} {text : String} {nonce : Bytes}
    (hoffer : Dial.offer config text nonce = .ok offer) (hsend : ∀ wire, send offer wire = (.error cause, wire))
    (host : Net.Host) : ∃ error, start host config text nonce = .error error := by
  rw [start, hoffer]
  show ∃ error, ((reach host offer).mapError Error.socket >>= fun _ => waitFor (send offer .fresh)) = .error error
  rw [hsend]
  cases reach host offer with
  | error unreached => exact ⟨_, rfl⟩
  | ok reached => exact ⟨_, rfl⟩

end unwritten

/-! ## The merged request -/

/-- **A request with merged fields** asks for the path and the query of a URL. It has the lines of the handshake, and
    behind them those that are configured for other names. -/
structure Merges (url : Url) (nonce : Bytes) (configured : Fields) (head : Bytes) (lines : List (Bytes × Bytes))
    (others : List Field) : Prop where
  /-- The head of the request. -/
  written : head = Http.Request.render .get (Bytes.ofText (url.path.text ++ Url.behind "?" url.query)) lines
  /-- Its lines. What a client has of its own is the host of the URL, the key, and what every client says. -/
  carried : lines = handshakeLines configured (Bytes.ofText url.hostAndPort) (keyOf nonce) ++ otherLines others
  /-- The other names are the configured ones with their values. -/
  foreign : others.Perm (configured.entries.filter fun field => field.name ∉ handshakeNames)
  /-- Each of their values is written as often as it is configured. -/
  count : ∀ name value, name ∉ handshakeNames → occurrences lines name value = configured.toList.count (name, value)

/-- **What an offer is made of**: the plain target of its URL, and the own fields of a client, overridden by those that
    are configured. -/
theorem offer_merged {config : Config} {text : String} {nonce : Bytes} {url : Url} {offer : Offer}
    (hurl : Url.parse text = .ok url) (hscheme : url.scheme = "ws")
    (hoffer : Dial.offer config text nonce = .ok offer) :
    ∃ own : Offer.Own, own.Says (Bytes.ofText url.hostAndPort) (keyOf nonce) ∧
      (∀ pair ∈ own.pairs, pair.2.isPrintable = true) ∧
      offer.fields = own.merge config.headers ∧
      offer.target.scheme = some (Bytes.ofText "ws") ∧
      offer.target.pathAndQuery = Bytes.ofText (url.path.text ++ Url.behind "?" url.query) := by
  have hnormal := Url.isNormal_of_parse hurl (hscheme ▸ rfl)
  obtain ⟨target, htarget, hmake⟩ := Upgrade.offer_ok hurl hoffer
  obtain ⟨rfl, hvisible, -⟩ := Http.Target.parse_url hnormal hscheme htarget
  obtain ⟨_, own, ⟨⟩, hown, rfl⟩ := Offer.make_ok hmake
  rw [Offer.hostPart_authority hnormal.credentials hnormal.host] at hown
  have hhost : ∀ b ∈ Bytes.ofText url.hostAndPort, Ascii.IsVisible b := by
    intro b hb
    apply hvisible
    rw [Bytes.ofText_append]
    exact List.mem_append_right _ hb
  refine ⟨own, hown, hown.printable hhost (Base64.visible_encode nonce), rfl, rfl, ?_⟩
  rw [Http.Target.ofText_pathAndQuery]
  rfl

/-- **The request carries the merged fields, or there is none.** A client has made an offer for a target with a plain
    scheme. If its configured fields can be sent, then they are what it sends, whatever host it reaches; otherwise it
    fails, and the stream is as it was. -/
theorem dial_merges {config : Config} {text : String} {nonce : Bytes} {url : Url} {offer : Offer}
    (hurl : Url.parse text = .ok url) (hscheme : url.scheme = "ws")
    (hoffer : Dial.offer config text nonce = .ok offer) :
    (Sendable config.headers → ∃ waiting lines others,
      Merges url nonce config.headers waiting.wire.outgoing lines others ∧
      ∀ host, reach host offer = .ok () → start host config text nonce = .ok waiting) ∧
    (¬ Sendable config.headers → ∃ cause, (∀ wire, send offer wire = (.error cause, wire)) ∧
      ∀ host, ∃ error, start host config text nonce = .error error) := by
  obtain ⟨own, hown, hprintable, hfields, hplain, hpath⟩ := offer_merged hurl hscheme hoffer
  have hlegible : Offer.Legible offer.fields ↔ Sendable config.headers := by
    rw [hfields]
    exact Offer.legible_merge_iff hprintable
  constructor
  · intro hsendable
    obtain ⟨lines, -, hlines, -⟩ := Offer.lines_of_legible (hlegible.2 hsendable)
    obtain ⟨expected, hrender⟩ := Offer.render_of_lines hlines
    obtain ⟨others, hforeign, hcarried, hcount⟩ := Offer.merged_lines hfields hown hlines
    have hsend := Upgrade.send_ok hplain hrender
    refine ⟨⟨_, _⟩, lines, others, ⟨?_, hcarried, hforeign, hcount⟩,
      fun host hreach => Upgrade.start_ok hoffer hreach hsend⟩
    rw [← hpath]
  · intro hunsendable
    cases hrender : offer.render with
    | ok rendered =>
      obtain ⟨lines, hlines⟩ := Offer.lines_of_render hrender
      exact absurd (hlegible.1 (Offer.legible_of_lines hlines)) hunsendable
    | error cause =>
      have hsend := send_unwritten hplain hrender
      exact ⟨cause, hsend, start_unwritten hoffer hsend⟩

open Upgrade (traceName sampleConfig sampleText sampleUrl sampleNonce sampleOffer)

/-- A value that cannot be written. -/
def hiddenValue : Value := ⟨[200], by decide⟩

/-- A configuration with two values of one name, and with two hosts of which the second one cannot be written. -/
def sendableConfig : Config := { sampleConfig with headers := sampleConfig.headers.append .host hiddenValue }

/-- The same configuration with a value that cannot be written behind the two values. -/
def unsendableConfig : Config := { sampleConfig with headers := sampleConfig.headers.append traceName hiddenValue }

/-- The second host does not stand in the way of a request; a third value of another name does. -/
theorem dial_merges_of_sample :
    (∃ waiting lines others, Merges sampleUrl sampleNonce sendableConfig.headers waiting.wire.outgoing lines others ∧
      start ⟨.loopback, [⟨.localhost, 9001⟩]⟩ sendableConfig sampleText sampleNonce = .ok waiting) ∧
    ∃ offer cause, Dial.offer unsendableConfig sampleText sampleNonce = .ok offer ∧
      (∀ wire, send offer wire = (.error cause, wire)) ∧
      ∀ host, ∃ error, start host unsendableConfig sampleText sampleNonce = .error error := by
  have hurl : Url.parse sampleText = .ok sampleUrl := by decide +kernel
  have htarget : Http.Target.parse (Bytes.ofText sampleUrl.text) = .ok sampleOffer.target := by decide +kernel
  have hoffer (config : Config) : ∃ fields, Dial.offer config sampleText sampleNonce
      = .ok ⟨sampleOffer.target, fields⟩ := by
    have hmake : ∃ fields, Offer.make sampleOffer.target sampleNonce config.headers
        = .ok ⟨sampleOffer.target, fields⟩ := ⟨_, rfl⟩
    obtain ⟨fields, hmake⟩ := hmake
    refine ⟨fields, ?_⟩
    simp only [Dial.offer, hurl, htarget, hmake]
    rfl
  have hreach (fields : Fields) : reach ⟨.loopback, [⟨.localhost, 9001⟩]⟩ ⟨sampleOffer.target, fields⟩ = .ok () := by
    show reach ⟨.loopback, [⟨.localhost, 9001⟩]⟩ sampleOffer = .ok ()
    decide +kernel
  constructor
  · obtain ⟨fields, hoffer⟩ := hoffer sendableConfig
    obtain ⟨waiting, lines, others, hmerges, hstart⟩ := (dial_merges hurl rfl hoffer).1 (by decide)
    exact ⟨waiting, lines, others, hmerges, hstart _ (hreach fields)⟩
  · obtain ⟨fields, hoffer⟩ := hoffer unsendableConfig
    obtain ⟨cause, hsend, hstart⟩ := (dial_merges hurl rfl hoffer).2 (by decide)
    exact ⟨_, cause, hoffer, hsend, hstart⟩

end TextSocket.Dial
