import IndexSearch.Proofs.JsonReading
import IndexSearch.Store.Link

namespace IndexSearch

open Number

/-!
# Stored values are read back

A link keeps values as texts. What JSON denotes is read back as it was: the kinds of the numbers,
the names of the fields and their order are all in the text. A value with a whole number that is too
long is not stored. Values of other kinds are stored as well, but what is read is then another value.

* `Value.IsJson` — the values that JSON denotes, `Value.isJson_iff` — each is that of some JSON;
* `Link.reads_text_iff` — the text of a value is read as the value exactly if JSON denotes it;
* `Link.reads_stored` — a value that is stored is read back, and other keys keep what they had.
-/

namespace Value

/-! ### The values that JSON denotes -/

/-- Values that JSON denotes, with whole numbers that fit: plain ones, lists of them, and mappings
    that name no field twice. -/
inductive IsJson (fits : Int → Bool) : Value → Prop where
  /-- The absence of a value. -/
  | null : IsJson fits null
  /-- A truth value. -/
  | bool (b : Bool) : IsJson fits (bool b)
  /-- A whole number that fits. -/
  | int {n : Int} (hn : fits n = true) : IsJson fits (int n)
  /-- A double, with or without digits. -/
  | real (x : Binary64) : IsJson fits (real x)
  /-- A text of any characters. -/
  | text (s : String) : IsJson fits (text s)
  /-- A list. -/
  | list {xs : List Value} (hxs : ∀ v ∈ xs, IsJson fits v) : IsJson fits (list xs)
  /-- A mapping of names, in any order. -/
  | fields {fields : List (String × Value)} (hnames : (fields.map Prod.fst).Nodup)
      (hfields : ∀ f ∈ fields, IsJson fits f.2) : IsJson fits (ofFields fields)

/-- The fields whose values are those of the members of an object. -/
def fieldsOf (members : List (String × Json)) : List (String × Value) :=
  members.map fun f => (f.1, f.2.toValue)

/-- The fields of a value have the names of the members. -/
theorem map_fst_fieldsOf (members : List (String × Json)) :
    (fieldsOf members).map Prod.fst = members.map Prod.fst := by
  simp [fieldsOf, Function.comp_def]

/-- An object denotes the mapping of its fields. -/
theorem toValue_object (members : List (String × Json)) :
    (Json.object members).toValue = ofFields (fieldsOf members) := by
  have hentries : Json.toEntries members = (fieldsOf members).map fun f => (text f.1, f.2) := by
    induction members with
    | nil => rfl
    | cons f r ih =>
      rw [Json.toEntries, ih]
      rfl
  rw [Json.toValue, hentries, ofFields]

variable {fits : Int → Bool}

/-! From JSON to the value, by the recursion of JSON. -/

mutual

/-- JSON denotes the value of a readable one. -/
theorem isJson_toValue : ∀ j : Json, j.Readable fits → j.toValue.IsJson fits
  | .null, _ => .null
  | .bool b, _ => .bool b
  | .int _, h => .int h
  | .real x, _ => .real x
  | .text s, _ => .text s
  | .array items, h => .list (isJson_toValues items h)
  | .object members, ⟨hnames, hmembers⟩ => by
    rw [toValue_object]
    exact .fields (map_fst_fieldsOf members ▸ hnames) (isJson_fieldsOf members hmembers)

/-- JSON denotes the values of a readable list. -/
theorem isJson_toValues : ∀ items : List Json, Json.ReadableItems fits items →
    ∀ v ∈ Json.toValues items, v.IsJson fits
  | [], _ => fun _ hv => by cases hv
  | j :: r, ⟨hj, hr⟩ => List.forall_mem_cons.mpr ⟨isJson_toValue j hj, isJson_toValues r hr⟩

/-- JSON denotes the values of readable members. -/
theorem isJson_fieldsOf : ∀ members : List (String × Json), Json.ReadableFields fits members →
    ∀ f ∈ fieldsOf members, f.2.IsJson fits
  | [], _ => fun _ hf => by cases hf
  | (_, j) :: r, ⟨hj, hr⟩ => List.forall_mem_cons.mpr ⟨isJson_toValue j hj, isJson_fieldsOf r hr⟩

end

/-- Values that are each denoted by JSON are those of a list. -/
theorem exists_toValues {xs : List Value}
    (h : ∀ v ∈ xs, ∃ j : Json, j.Readable fits ∧ j.toValue = v) :
    ∃ items, Json.ReadableItems fits items ∧ Json.toValues items = xs := by
  induction xs with
  | nil => exact ⟨[], trivial, rfl⟩
  | cons v r ih =>
    obtain ⟨⟨j, hj, rfl⟩, hr⟩ := List.forall_mem_cons.mp h
    obtain ⟨items, hitems, rfl⟩ := ih hr
    exact ⟨j :: items, ⟨hj, hitems⟩, rfl⟩

/-- Fields whose values are each denoted by JSON are those of members. -/
theorem exists_fieldsOf {fields : List (String × Value)}
    (h : ∀ f ∈ fields, ∃ j : Json, j.Readable fits ∧ j.toValue = f.2) :
    ∃ members, Json.ReadableFields fits members ∧ fieldsOf members = fields := by
  induction fields with
  | nil => exact ⟨[], trivial, rfl⟩
  | cons f r ih =>
    obtain ⟨⟨j, hj, hvalue⟩, hr⟩ := List.forall_mem_cons.mp h
    obtain ⟨members, hmembers, rfl⟩ := ih hr
    refine ⟨(f.1, j) :: members, ⟨hj, hmembers⟩, ?_⟩
    rw [fieldsOf, List.map_cons, hvalue]
    rfl

/-- JSON denotes a value exactly if it is that of readable JSON. -/
theorem isJson_iff {v : Value} : v.IsJson fits ↔ ∃ j : Json, j.Readable fits ∧ j.toValue = v := by
  refine ⟨fun h => ?_, fun ⟨j, hj, hv⟩ => hv ▸ isJson_toValue j hj⟩
  induction h with
  | null => exact ⟨.null, trivial, rfl⟩
  | bool b => exact ⟨.bool b, trivial, rfl⟩
  | @int n hn => exact ⟨.int n, hn, rfl⟩
  | real x => exact ⟨.real x, trivial, rfl⟩
  | text s => exact ⟨.text s, trivial, rfl⟩
  | list _ ih =>
    obtain ⟨items, hitems, rfl⟩ := exists_toValues ih
    exact ⟨.array items, hitems, rfl⟩
  | fields hnames _ ih =>
    obtain ⟨members, hmembers, rfl⟩ := exists_fieldsOf ih
    exact ⟨.object members, ⟨map_fst_fieldsOf members ▸ hnames, hmembers⟩, toValue_object members⟩

end Value

namespace Link

/-! ### Storing and reading -/

/-- A stored text that is JSON stands for the value that the JSON denotes. -/
theorem decode_of_read {t : String} {j : Json} (h : Json.read t = .ok j) :
    decode t = .ok j.toValue := by
  rw [decode, h]

/-- Whatever text is stored, JSON denotes what is read. -/
theorem isJson_of_decode {t : String} {v : Value} (h : decode t = .ok v) : v.IsJson isShort := by
  unfold decode at h
  split at h
  · rename_i j hread
    exact Except.ok.inj h ▸ Value.isJson_toValue j (Json.readable_of_text hread)
  · split at h
    · cases h
    · exact Except.ok.inj h ▸ .text t

/-- The text of a value is read as the value exactly if JSON denotes it and no whole number in it is
    too long. -/
theorem reads_text_iff {v : Value} :
    (∃ t, textOfValue v = .ok t ∧ decode t = .ok v) ↔ v.IsJson isShort := by
  refine ⟨fun ⟨_, _, hread⟩ => isJson_of_decode hread, fun h => ?_⟩
  obtain ⟨j, hj, rfl⟩ := Value.isJson_iff.mp h
  refine ⟨j.write Json.spaced, ?_, decode_of_read (Json.read_write Json.separates_spaced hj)⟩
  rw [textOfValue, Json.toJson_toValue j hj]
  rfl

/-- A value that JSON denotes has no text if a whole number in it is too long. -/
theorem textOfValue_of_long {v : Value} (hv : v.IsJson fun _ => true) (hlong : ¬ v.IsJson isShort) :
    textOfValue v = .error (.text .tooLong) := by
  obtain ⟨j, hj, rfl⟩ := Value.isJson_iff.mp hv
  have hjlong : ¬ j.Readable isShort := fun h => hlong (Value.isJson_iff.mpr ⟨j, h, rfl⟩)
  rw [textOfValue, Json.toJson_toValue_of_long j hj hjlong]
  rfl

/-- **A value that is stored is read back.** Whatever a server holds, a connected link stores a
    value that JSON denotes under a key, whereupon the key has that very value and every other key
    has what it had. If a whole number in the value has more than 4300 digits, nothing is stored,
    with an error that says so. -/
theorem reads_stored {l : Link} (hl : l.connected = true) {s : Server}
    (hset : s.failure? .set = none) (hget : s.failure? .get = none) {v : Value}
    (hv : v.IsJson fun _ => true) (key : String) (expiry : Value) :
    (v.IsJson isShort → ∃ s', l.set s key v expiry = .ok s' ∧ l.get s' key = .ok v ∧
      ∀ other, other ≠ key → Store.get? other s'.store = Store.get? other s.store) ∧
    (¬ v.IsJson isShort → l.set s key v expiry = .error (.unwritten (.text .tooLong))) := by
  constructor
  · intro hshort
    obtain ⟨t, htext, hread⟩ := reads_text_iff.mpr hshort
    let s' : Server := { s with store := Store.put key ⟨t, expiry⟩ s.store }
    have hstored : l.set s key v expiry = .ok s' := by
      simp only [set, hl, htext, Server.set, hset]
      rfl
    have hfound : s'.get key = .ok (some t) := by
      rw [Server.get, show s'.failure? .get = none from hget, Store.get?_put_self]
      rfl
    refine ⟨s', hstored, ?_, fun other hother => Store.get?_put_of_ne hother _ _⟩
    rw [get, hl, hfound]
    exact hread
  · intro hlong
    rw [set, hl, textOfValue_of_long hv hlong]
    rfl

/-- A mapping with a list of numbers of all kinds and a text with signs to escape is read back, next
    to what was stored before. -/
theorem reads_stored_nested :
    let numbers := Value.list [.int 1, .real (.ofInt 1), .bool true, .real (.zero true), .real .nan]
    let v := Value.ofFields [("numbers", numbers), ("a", .text "\"\\\n\u00e9😀"), ("", .null)]
    let s : Server := ⟨[("key", ⟨"[]", .null⟩), ("other", ⟨"1", .null⟩)], none⟩
    ∃ s', (Link.mk .null true).set s "key" v (.int 300) = .ok s' ∧
      (Link.mk .null true).get s' "key" = .ok v ∧
        ∀ other, other ≠ "key" → Store.get? other s'.store = Store.get? other s.store := by
  intro numbers v s
  have hv {fits : Int → Bool} (hone : fits 1 = true) : v.IsJson fits := by
    have hnumbers : numbers.IsJson fits := .list <| by
      simp only [List.forall_mem_cons, List.not_mem_nil, false_imp_iff, implies_true, and_true]
      exact ⟨.int hone, .real _, .bool true, .real _, .real .nan⟩
    refine .fields (by decide) ?_
    simp only [List.forall_mem_cons, List.not_mem_nil, false_imp_iff, implies_true, and_true]
    exact ⟨hnumbers, .text _, .null⟩
  exact (reads_stored rfl rfl rfl (hv rfl) "key" (.int 300)).1 (hv isShort_one)

/-- A whole number of 4301 digits is denoted by JSON, and it is not stored. -/
theorem not_stored_long :
    (Value.int (10 ^ 4300)).IsJson (fun _ => true) ∧
      (Link.mk .null true).set ⟨[], none⟩ "key" (.int (10 ^ 4300)) (.int 300)
        = .error (.unwritten (.text .tooLong)) := by
  refine ⟨.int rfl, ?_⟩
  rw [set, textOfValue, Json.toJson_int, isShort_ten_pow]
  rfl

end Link

end IndexSearch
