import TextSocket.Proofs.Base64
import TextSocket.Proofs.Config.Export
import TextSocket.Proofs.Http.Target
import TextSocket.Upgrade.Offer

/-!
# `Proofs.Upgrade.Offer` — an offer is admitted

Configured header fields take the place of those that a client has of its own. As long as they leave the fields of the
handshake alone and can be written at all (`Modest`), **the request of an offer can be written** (`lines_ok`), and
**whoever reads its header lines admits it** (`judge_lines`): each line is read as the field from which it was written,
up to the blanks around its value, and no other line has one of the names that are looked up.

## Contents

* `reserved`, `Modest` — what may be configured;
* `Own`, `make_ok`, `Made`, `made_of_make` — the fields of an offer;
* `writeFirst_ok`, `writeFirst_eq`, `mapM_fieldLine_eq` — lines that are written, and what they are;
* `Legible`, `lines_of_legible`, `lines_ok` — the header lines of an offer;
* `judge_lines` — the main result.
-/

namespace TextSocket.Upgrade.Offer

open Ascii (IsVisible)
open Header (Name Value Fields)
open Header.Fields (valuesIn)
open Http (Writes trimmedField trimmedValue trimmedValue_bytes)

/-! ## What may be configured -/

/-- The names that belong to the handshake. -/
def reserved : List Name := [.connection, .upgrade, .socketVersion, .socketKey, .socketProtocol]

/-- Header fields that can be written and leave the handshake alone. -/
structure Modest (configured : Fields) : Prop where
  /-- Every value is printable. -/
  printable : ∀ pair ∈ configured.toList, pair.2.isPrintable = true
  /-- No name belongs to the handshake. -/
  foreign : ∀ pair ∈ configured.toList, pair.1 ∉ reserved

theorem mem_toList {fields : Fields} {name : Name} {value : Value} :
    (name, value) ∈ fields.toList ↔ value ∈ fields.values name := by
  rw [← Fields.valuesIn_toList, valuesIn, List.mem_filterMap]
  constructor
  · intro h
    exact ⟨(name, value), h, if_pos rfl⟩
  · rintro ⟨⟨other, value'⟩, h, hvalue⟩
    dsimp only at hvalue
    split_ifs at hvalue with hname
    cases hvalue
    exact hname ▸ h

theorem Modest.values_eq_nil {configured : Fields} (h : Modest configured) {name : Name} (hname : name ∈ reserved) :
    configured.values name = [] := by
  rw [List.eq_nil_iff_forall_not_mem]
  exact fun value hvalue => h.foreign (name, value) (mem_toList.2 hvalue) hname

/-! ## The fields of an offer -/

/-- **The fields of an offer**: those of the handshake, and others that can be written. -/
structure Made (fields : Fields) (key : Bytes) : Prop where
  /-- There is a host. -/
  host : ∃ value, fields.get? .host = some value
  /-- The connection is to be upgraded. -/
  connection : ∃ value, fields.get? .connection = some value ∧ value.bytes = Bytes.ofText "Upgrade"
  /-- It is to be upgraded to a WebSocket. -/
  upgrade : ∃ value, fields.get? .upgrade = some value ∧ value.bytes = Bytes.ofText "websocket"
  /-- The version of the protocol. -/
  version : ∃ value, fields.get? .socketVersion = some value ∧ value.bytes = Upgrade.version
  /-- The key. -/
  key : ∃ value, fields.get? .socketKey = some value ∧ value.bytes = key
  /-- No subprotocol is asked for. -/
  protocol : fields.values .socketProtocol = []
  /-- Everything can be written. -/
  printable : ∀ name, ∀ value ∈ fields.values name, value.isPrintable = true

theorem value_ok {bytes : Bytes} {made : Value} (h : value bytes = .ok made) : made.bytes = bytes := by
  unfold value Value.ofBytes? at h
  split at h
  next hmade =>
    split_ifs at hmade
    cases hmade
    cases h
    rfl
  · cases h

theorem isPrintable_of_visible {value : Value} (h : ∀ b ∈ value.bytes, IsVisible b) : value.isPrintable = true := by
  rw [Value.isPrintable, List.all_eq_true]
  intro b hb
  have hb := h b hb
  have hle : 32 ≤ b := UInt8.le_iff_toNat_le.2 (Nat.le_trans (by decide) hb.1)
  have hlt : b < 127 := UInt8.lt_iff_toNat_lt.2 hb.2
  simp [Ascii.isPrintable, hle, hlt]

/-- The five fields that a client has of its own. -/
structure Own where
  /-- Who is asked. -/
  host : Value
  /-- What is to become of the connection. -/
  connection : Value
  /-- What it is to be upgraded to. -/
  upgrade : Value
  /-- The version of the protocol. -/
  version : Value
  /-- The key. -/
  key : Value

/-- The fields with their names. -/
def Own.pairs (own : Own) : List (Name × Value) :=
  [(.host, own.host), (.connection, own.connection), (.upgrade, own.upgrade), (.socketVersion, own.version),
    (.socketKey, own.key)]

/-- The fields of an offer: the own ones, with configured ones in the place of those with the same name. -/
def Own.merge (own : Own) (configured : Fields) : Fields := Fields.override (.ofList own.pairs) configured

theorem Own.values_merge (own : Own) (configured : Fields) (name : Name) : (own.merge configured).values name
    = if configured.values name = [] then valuesIn own.pairs name else configured.values name := by
  rw [merge, Fields.values_override, Fields.values_ofList]

/-- **What a client says in its own fields**: the host and the key, and what every client says. -/
structure Own.Says (own : Own) (host key : Bytes) : Prop where
  /-- The host. -/
  host : own.host.bytes = host
  /-- The connection is to be upgraded. -/
  connection : own.connection.bytes = Bytes.ofText "Upgrade"
  /-- It is to be upgraded to a WebSocket. -/
  upgrade : own.upgrade.bytes = Bytes.ofText "websocket"
  /-- The version of the protocol. -/
  version : own.version.bytes = Upgrade.version
  /-- The key. -/
  key : own.key.bytes = key

/-- The own fields of a client can be written if its host and its key are visible. -/
theorem Own.Says.printable {own : Own} {host key : Bytes} (h : own.Says host key) (hhost : ∀ b ∈ host, IsVisible b)
    (hkey : ∀ b ∈ key, IsVisible b) : ∀ pair ∈ own.pairs, pair.2.isPrintable = true := by
  have constant {value : Value} {bytes : Bytes} (h : value.bytes = bytes) (hb : bytes.all Ascii.isPrintable = true) :
      value.isPrintable = true := by
    rw [Value.isPrintable, h, hb]
  intro pair hpair
  simp only [pairs, List.mem_cons, List.not_mem_nil, or_false] at hpair
  rcases hpair with rfl | rfl | rfl | rfl | rfl
  · exact isPrintable_of_visible (h.host ▸ hhost)
  · exact constant h.connection (by decide)
  · exact constant h.upgrade (by decide)
  · exact constant h.version (by decide)
  · exact isPrintable_of_visible (h.key ▸ hkey)

theorem ownFields_ok {host key : Value} {fields : Fields} (h : ownFields host key = .ok fields) :
    ∃ own : Own, own.Says host.bytes key.bytes ∧ fields = .ofList own.pairs := by
  obtain ⟨connection, hconnection, h⟩ := ok_of_bind h
  obtain ⟨upgrade, hupgrade, h⟩ := ok_of_bind h
  obtain ⟨version, hversion, h⟩ := ok_of_bind h
  cases h
  exact ⟨⟨host, connection, upgrade, version, key⟩,
    ⟨rfl, value_ok hconnection, value_ok hupgrade, value_ok hversion, rfl⟩, rfl⟩

/-- An authority without the credentials in front. -/
def hostPart (authority : Bytes) : Bytes :=
  if authority.contains 64 then (authority.dropWhile (· != 64)).tail else authority

/-- **An offer has the own fields of a client, overridden by those that are configured.** -/
theorem make_ok {target : Http.Target} {nonce : Bytes} {configured : Fields} {offer : Offer}
    (h : make target nonce configured = .ok offer) :
    ∃ authority, ∃ own : Own, target.authority = some authority ∧ own.Says (hostPart authority) (keyOf nonce) ∧
      offer = ⟨target, own.merge configured⟩ := by
  unfold make at h
  split at h
  · cases h
  next authority hauthority =>
    have hpart : hostPart authority
        = if authority.contains 64 = true then (authority.dropWhile fun b => b != 64).tail else authority := rfl
    dsimp only at h
    rw [← hpart] at h
    split at h
    · cases h
    obtain ⟨host, hhost, h⟩ := ok_of_bind h
    obtain ⟨key, hkey, h⟩ := ok_of_bind h
    obtain ⟨fields, hfields, h⟩ := ok_of_bind h
    cases h
    obtain ⟨own, hown, rfl⟩ := ownFields_ok hfields
    rw [value_ok hhost, value_ok hkey] at hown
    exact ⟨authority, own, hauthority, hown, rfl⟩

theorem mem_of_mem_hostPart {authority : Bytes} {b : UInt8} (h : b ∈ hostPart authority) : b ∈ authority := by
  unfold hostPart at h
  split_ifs at h
  · exact (List.dropWhile_suffix _).subset (List.mem_of_mem_tail h)
  · exact h

section own

variable {own : Own} {configured : Fields}

/-- The five fields of a client, with those that are configured. -/
theorem made_of_own {host key : Bytes} (hconfigured : Modest configured) (hown : own.Says host key)
    (hhost : ∀ b ∈ host, IsVisible b) (hkey : ∀ b ∈ key, IsVisible b) :
    Made (own.merge configured) key := by
  have hreserved (name : Name) (hname : name ∈ reserved) :
      (own.merge configured).values name = valuesIn own.pairs name := by
    rw [own.values_merge, if_pos (hconfigured.values_eq_nil hname)]
  have first {name : Name} {value : Value} (h : (own.merge configured).values name = [value]) :
      (own.merge configured).get? name = some value := by
    rw [Fields.get?, h]
    rfl
  constructor
  case host =>
    have some : ∃ value more, (own.merge configured).values .host = value :: more := by
      rw [own.values_merge]
      split_ifs
      · exact ⟨own.host, [], rfl⟩
      · next hsome => exact List.exists_cons_of_ne_nil hsome
    obtain ⟨value, more, h⟩ := some
    exact ⟨value, by rw [Fields.get?, h]; rfl⟩
  case connection => exact ⟨own.connection, first (hreserved .connection (by decide)), hown.connection⟩
  case upgrade => exact ⟨own.upgrade, first (hreserved .upgrade (by decide)), hown.upgrade⟩
  case version => exact ⟨own.version, first (hreserved .socketVersion (by decide)), hown.version⟩
  case key => exact ⟨own.key, first (hreserved .socketKey (by decide)), hown.key⟩
  case protocol => exact hreserved .socketProtocol (by decide)
  case printable =>
    intro name value hvalue
    rw [own.values_merge] at hvalue
    split_ifs at hvalue
    · obtain ⟨pair, hpair, hsome⟩ := List.mem_filterMap.1 hvalue
      split_ifs at hsome
      cases hsome
      exact hown.printable hhost hkey pair hpair
    · exact hconfigured.printable (name, value) (mem_toList.2 hvalue)

end own

/-- **An offer has the fields of the handshake**, whatever else is configured. -/
theorem made_of_make {target : Http.Target} {nonce : Bytes} {configured : Fields} {offer : Offer}
    (h : make target nonce configured = .ok offer) (hconfigured : Modest configured)
    (htarget : ∀ authority, target.authority = some authority → ∀ b ∈ authority, IsVisible b) :
    offer.target = target ∧ Made offer.fields (keyOf nonce) := by
  obtain ⟨authority, own, hauthority, hown, rfl⟩ := make_ok h
  have hhost : ∀ b ∈ hostPart authority, IsVisible b :=
    fun b hb => htarget authority hauthority b (mem_of_mem_hostPart hb)
  exact ⟨rfl, made_of_own hconfigured hown hhost (Base64.visible_encode nonce)⟩

/-! ## The header lines of an offer -/

theorem fieldLine_ok {value : Value} (h : value.isPrintable = true) (spelled : String) :
    fieldLine spelled value = .ok (Bytes.ofText spelled, value.bytes) :=
  if_pos h

theorem fieldLine_eq {spelled : String} {value : Value} {line : Bytes × Bytes}
    (h : fieldLine spelled value = .ok line) :
    value.isPrintable = true ∧ line = (Bytes.ofText spelled, value.bytes) := by
  unfold fieldLine at h
  split_ifs at h with hprintable
  cases h
  exact ⟨hprintable, rfl⟩

section first

variable {names : List (Name × String)} {fields left : Fields} {lines : List (Bytes × Bytes)}

/-- What has been written is out of the way of the names that follow. -/
theorem get?_erase_of_not_mem {name : Name} (hname : name ∉ names.map Prod.fst) {entry : Name × String}
    (hentry : entry ∈ names) : (fields.erase name).get? entry.1 = fields.get? entry.1 := by
  have hmem : entry.1 ∈ names.map Prod.fst := List.mem_map_of_mem hentry
  have hne : name ≠ entry.1 := fun e => hname (e ▸ hmem)
  rw [Fields.get?, Fields.values_erase, if_neg hne, Fields.get?]

/-- The line of a name has its first value, if this value is printable. -/
def WritesFirst (fields : Fields) (entry : Name × String) (line : Bytes × Bytes) : Prop :=
  ∃ value, fields.get? entry.1 = some value ∧ value.isPrintable = true ∧ line = (Bytes.ofText entry.2, value.bytes)

/-- **First values are written** if they are there and printable. -/
theorem writeFirst_ok (hnodup : (names.map Prod.fst).Nodup)
    (hsome : ∀ entry ∈ names, ∃ value, fields.get? entry.1 = some value ∧ value.isPrintable = true) :
    ∃ lines left, writeFirst fields names = .ok (lines, left) := by
  induction names generalizing fields with
  | nil => exact ⟨[], fields, rfl⟩
  | cons entry names ih =>
    obtain ⟨name, spelled⟩ := entry
    rw [List.map_cons, List.nodup_cons] at hnodup
    obtain ⟨value, hvalue, hprintable⟩ := hsome (name, spelled) List.mem_cons_self
    have hmore : ∀ entry ∈ names, ∃ value, (fields.erase name).get? entry.1 = some value ∧
        value.isPrintable = true := by
      intro entry hentry
      rw [get?_erase_of_not_mem hnodup.1 hentry]
      exact hsome entry (List.mem_cons_of_mem _ hentry)
    obtain ⟨lines, left, hwrite⟩ := ih hnodup.2 hmore
    refine ⟨(Bytes.ofText spelled, value.bytes) :: lines, left, ?_⟩
    unfold writeFirst
    simp only [hvalue, fieldLine_ok hprintable, hwrite]
    rfl

/-- **What is written first** is the first value of each of the names, and nothing of them is left. -/
theorem writeFirst_eq (hnodup : (names.map Prod.fst).Nodup) (h : writeFirst fields names = .ok (lines, left)) :
    List.Forall₂ (WritesFirst fields) names lines ∧
      ∀ name, left.values name = if name ∈ names.map Prod.fst then [] else fields.values name := by
  induction names generalizing fields lines with
  | nil =>
    cases h
    exact ⟨.nil, fun _ => rfl⟩
  | cons entry names ih =>
    obtain ⟨name, spelled⟩ := entry
    rw [List.map_cons, List.nodup_cons] at hnodup
    unfold writeFirst at h
    split at h
    · cases h
    next value hvalue =>
    obtain ⟨line, hline, h⟩ := ok_of_bind h
    obtain ⟨⟨more, rest⟩, hmore, h⟩ := ok_of_bind h
    cases h
    obtain ⟨hprintable, rfl⟩ := fieldLine_eq hline
    obtain ⟨hwrites, hleft⟩ := ih hnodup.2 hmore
    have hkept : ∀ entry ∈ names, (fields.erase name).get? entry.1 = fields.get? entry.1 :=
      fun entry hentry => get?_erase_of_not_mem hnodup.1 hentry
    refine ⟨.cons ⟨value, hvalue, hprintable, rfl⟩ ?_, fun other => ?_⟩
    · refine ((List.forall₂_and_left _ _).2 ⟨hkept, hwrites⟩).imp ?_
      rintro entry line ⟨hsame, value, hvalue, hline⟩
      exact ⟨value, hsame ▸ hvalue, hline⟩
    · rw [hleft, List.map_cons, Fields.values_erase]
      by_cases hname : name = other
      · subst hname
        rw [if_neg hnodup.1, if_pos rfl, if_pos List.mem_cons_self]
      · simp only [List.mem_cons, Ne.symm hname, false_or, if_neg hname]

/-- Lines with first values stand for fields. -/
theorem exists_writes_of_writesFirst (hspelled : ∀ entry ∈ names, Name.ofBytes? (Bytes.ofText entry.2) = some entry.1)
    (hnodup : (names.map Prod.fst).Nodup) (h : List.Forall₂ (WritesFirst fields) names lines) :
    ∃ pairs, List.Forall₂ Writes lines pairs ∧
      ∀ name, valuesIn pairs name = if name ∈ names.map Prod.fst then (fields.get? name).toList else [] := by
  induction h with
  | nil => exact ⟨[], .nil, fun _ => rfl⟩
  | @cons entry line names lines hline _ ih =>
    obtain ⟨name, spelled⟩ := entry
    obtain ⟨value, hvalue, -, rfl⟩ := hline
    rw [List.map_cons, List.nodup_cons] at hnodup
    obtain ⟨pairs, hwrites, hpairs⟩ := ih (fun entry hentry => hspelled entry (List.mem_cons_of_mem _ hentry)) hnodup.2
    refine ⟨(name, value) :: pairs, .cons ⟨hspelled (name, spelled) List.mem_cons_self, rfl⟩ hwrites, fun other => ?_⟩
    rw [Fields.valuesIn_cons, hpairs, List.map_cons]
    by_cases hname : name = other
    · subst hname
      rw [if_pos rfl, if_neg hnodup.1, if_pos List.mem_cons_self, hvalue]
      rfl
    · simp only [if_neg hname, List.mem_cons, Ne.symm hname, false_or]

end first

/-- Every spelling stands for its name. -/
theorem ofBytes?_spelling (name : Name) : Name.ofBytes? (Bytes.ofText (spelling name)) = some name := by
  unfold spelling
  split_ifs with hprotocol horigin
  · rw [hprotocol]
    rfl
  · rw [horigin]
    rfl
  · exact Name.ofBytes?_text name

/-- The line of a field. -/
def lineOf (field : Name × Value) : Bytes × Bytes := (Bytes.ofText (spelling field.1), field.2.bytes)

theorem mapM_fieldLine_eq {fields : List (Name × Value)} {lines : List (Bytes × Bytes)}
    (h : (fields.mapM fun field => fieldLine (spelling field.1) field.2) = .ok lines) :
    (∀ field ∈ fields, field.2.isPrintable = true) ∧ lines = fields.map lineOf := by
  induction fields generalizing lines with
  | nil =>
    cases h
    exact ⟨nofun, rfl⟩
  | cons field fields ih =>
    rw [List.mapM_cons] at h
    obtain ⟨line, hline, h⟩ := ok_of_bind h
    obtain ⟨more, hmore, h⟩ := ok_of_bind h
    cases h
    obtain ⟨hprintable, rfl⟩ := fieldLine_eq hline
    obtain ⟨hothers, rfl⟩ := ih hmore
    exact ⟨List.forall_mem_cons.2 ⟨hprintable, hothers⟩, rfl⟩

theorem mapM_fieldLine {fields : List (Name × Value)} (h : ∀ field ∈ fields, field.2.isPrintable = true) :
    (fields.mapM fun field => fieldLine (spelling field.1) field.2) = .ok (fields.map lineOf) := by
  induction fields with
  | nil => rfl
  | cons field fields ih =>
    rw [List.mapM_cons, fieldLine_ok (h field List.mem_cons_self), ih fun f hf => h f (List.mem_cons_of_mem _ hf)]
    rfl

/-- The line of a field stands for it. -/
theorem writes_lineOf (fields : List (Name × Value)) : List.Forall₂ Writes (fields.map lineOf) fields := by
  induction fields with
  | nil => exact .nil
  | cons field fields ih => exact .cons ⟨ofBytes?_spelling field.1, rfl⟩ ih

/-- The fields that lines stand for. A name that is written first has one line, and any other name has one for each of
    its values. -/
def Sends (fields : Fields) (pairs : List (Name × Value)) : Prop :=
  ∀ name, valuesIn pairs name
    = if name ∈ firstNames.map Prod.fst then (fields.get? name).toList else fields.values name

/-- What is read for a name that is written first. -/
theorem Sends.get? {fields : Fields} {pairs : List (Name × Value)} (h : Sends fields pairs) {name : Name}
    (hname : name ∈ firstNames.map Prod.fst) {value : Value} (hvalue : fields.get? name = some value) :
    (Fields.ofList (pairs.map trimmedField)).get? name = some (trimmedValue value) := by
  rw [Fields.get?, Fields.values_ofList, Http.valuesIn_trimmedField, h, if_pos hname, hvalue]
  rfl

/-- **Fields whose request can be written.** -/
structure Legible (fields : Fields) : Prop where
  /-- The names that are written first have a value, and the first one is printable. -/
  first : ∀ entry ∈ firstNames, ∃ value, fields.get? entry.1 = some value ∧ value.isPrintable = true
  /-- All values of the other names are printable. -/
  others : ∀ name ∉ firstNames.map Prod.fst, ∀ value ∈ fields.values name, value.isPrintable = true

/-- **The header lines of an offer can be written** if its fields can. -/
theorem lines_of_legible {offer : Offer} (h : Legible offer.fields) : ∃ lines pairs, offer.lines = .ok lines ∧
    List.Forall₂ Writes lines pairs ∧ Sends offer.fields pairs := by
  obtain ⟨first, left, hwrite⟩ := writeFirst_ok (by decide) h.first
  obtain ⟨hwrites, hleft⟩ := writeFirst_eq (by decide) hwrite
  obtain ⟨pairs, hfirst, hpairs⟩ := exists_writes_of_writesFirst (by decide) (by decide) hwrites
  have hprintable : ∀ field ∈ left.toList, field.2.isPrintable = true := by
    intro field hfield
    have hvalue := mem_toList.1 hfield
    rw [hleft] at hvalue
    split_ifs at hvalue with hname
    · cases hvalue
    · exact h.others field.1 hname field.2 hvalue
  refine ⟨first ++ left.toList.map lineOf, pairs ++ left.toList, ?_, List.rel_append hfirst (writes_lineOf _), ?_⟩
  · unfold lines
    rw [hwrite]
    show (left.toList.mapM (fun field => fieldLine (spelling field.1) field.2) >>= _) = _
    rw [mapM_fieldLine hprintable]
    rfl
  · intro name
    rw [Fields.valuesIn_append, hpairs, Fields.valuesIn_toList, hleft]
    split_ifs
    · exact List.append_nil _
    · exact List.nil_append _

section made

variable {offer : Offer} {key : Bytes} (hmade : Made offer.fields key)

include hmade

theorem Made.legible : Legible offer.fields := by
  have printable {name : Name} {value : Value} (h : offer.fields.get? name = some value) : value.isPrintable = true :=
    hmade.printable name value (List.mem_of_mem_head? h)
  obtain ⟨host, hhost⟩ := hmade.host
  obtain ⟨connection, hconnection, -⟩ := hmade.connection
  obtain ⟨upgrade, hupgrade, -⟩ := hmade.upgrade
  obtain ⟨version, hversion, -⟩ := hmade.version
  obtain ⟨key, hkey, -⟩ := hmade.key
  refine ⟨fun entry hentry => ?_, fun name _ => hmade.printable name⟩
  simp only [firstNames, List.mem_cons, List.not_mem_nil, or_false] at hentry
  rcases hentry with rfl | rfl | rfl | rfl | rfl
  · exact ⟨host, hhost, printable hhost⟩
  · exact ⟨connection, hconnection, printable hconnection⟩
  · exact ⟨upgrade, hupgrade, printable hupgrade⟩
  · exact ⟨version, hversion, printable hversion⟩
  · exact ⟨key, hkey, printable hkey⟩

/-- **The header lines of an offer can be written.** -/
theorem lines_ok : ∃ lines pairs, offer.lines = .ok lines ∧ List.Forall₂ Writes lines pairs ∧
    Sends offer.fields pairs :=
  lines_of_legible hmade.legible

/-- **Whoever reads the lines of an offer admits it**, and proves to have seen its key. -/
theorem judge_lines {pairs : List (Name × Value)} (hpairs : Sends offer.fields pairs)
    (hvisible : ∀ b ∈ key, IsVisible b) (hkey : isKey key = true) :
    judge (.ofList (pairs.map trimmedField)) = .ok (acceptOf key) := by
  obtain ⟨connection, hconnection, connection_bytes⟩ := hmade.connection
  obtain ⟨upgrade, hupgrade, upgrade_bytes⟩ := hmade.upgrade
  obtain ⟨version, hversion, version_bytes⟩ := hmade.version
  obtain ⟨keyValue, hkeyValue, rfl⟩ := hmade.key
  have whole : trimmedValue keyValue = keyValue :=
    Value.eq_of_bytes (Http.Head.trimBlanks_eq_self fun b hb => Http.Head.isBlank_of_visible (hvisible b hb))
  have lists_upgrade : lists (Bytes.ofText "upgrade") (trimmedValue connection) = true := by
    rw [lists, Value.isPrintable, trimmedValue_bytes, connection_bytes]
    decide
  have token_websocket : isToken (Bytes.ofText "websocket") (trimmedValue upgrade) = true := by
    rw [isToken, Value.isPrintable, trimmedValue_bytes, upgrade_bytes]
    decide
  have same_version : (trimmedValue version).bytes = Upgrade.version := by
    rw [trimmedValue_bytes, version_bytes]
    decide
  have some_key : keyValue.bytes.isEmpty = false := by
    rw [List.isEmpty_eq_false_iff]
    intro hnil
    rw [hnil] at hkey
    revert hkey
    decide
  unfold judge
  simp only [hpairs.get? (by decide) hconnection, hpairs.get? (by decide) hupgrade,
    hpairs.get? (by decide) hversion, hpairs.get? (by decide) hkeyValue, lists_upgrade,
    token_websocket, Option.map_some, same_version, whole, some_key, hkey]
  rfl

/-- **The request of an offer can be written.** -/
theorem render_ok {lines : List (Bytes × Bytes)} (hlines : offer.lines = .ok lines) :
    offer.render = .ok (Http.Request.render .get offer.target.pathAndQuery lines, ⟨acceptOf key, none⟩) := by
  obtain ⟨value, hvalue, rfl⟩ := hmade.key
  have hprintable : value.isPrintable = true := hmade.printable .socketKey value (List.mem_of_mem_head? hvalue)
  have hprotocol : offer.fields.get? .socketProtocol = none := by
    rw [Fields.get?, hmade.protocol]
    rfl
  have hsubprotocols : offer.subprotocols = .ok none := by
    rw [subprotocols, hprotocol]
  have hkey : offer.key = .ok value.bytes := by
    rw [Offer.key, hvalue]
    exact if_pos hprintable
  rw [render, hsubprotocols, hkey, hlines]
  rfl

end made

end TextSocket.Upgrade.Offer
