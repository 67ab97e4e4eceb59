import QuorumBridge.Instruction.Json
import QuorumBridge.Proofs.Json.Fields
import QuorumBridge.Proofs.Json.Values

/-!
# Instructions survive their JSON form

An instruction is read again from the text that it is written as, from the text
with its members in another order, and from the list of its values.

Two readers work one after the other. The first makes a value of a text and the
second an instruction of a value, and what is written stands between them: it
is read as a value by the first because none of its members is such that a
reader could be mistaken in it, and the second gets out what was put in. That
the order of members does not matter, and that no field may be left out or
repeated, is all about the second. But it is told about texts, so the first
must be known to keep members as they are, repeated ones included.

## Main definitions

* `Instruction.members`, `Instruction.values`: What is written for an instruction.
* `Instruction.compact`: The text it is written as.
* `Instruction.timesGiven`: How often a field is given.
* `Instruction.Restored`: What texts an instruction is read from, and from which it is not.

## Theorems

* `Instruction.ofJson?_of_perm`: An instruction is read from its members in any order.
* `Instruction.ofJson?_of_timesGiven_ne_one`: Each field must be there once.
* `Instruction.json_restored`: What texts an instruction is read from.
-/

namespace QuorumBridge

namespace Instruction

/-- The members that are written for an instruction, in their order. -/
def members (x : Instruction) : List (String × Json) :=
  [("recipient", x.recipient.toJson), ("value", Amount.toJson x.value),
    ("transaction_hash", x.transaction.toJson), ("gas_price", Amount.toJson x.gasPrice)]

/-- Their values. -/
def values (x : Instruction) : List Json :=
  x.members.map Prod.snd

/-- A member that is a text with nothing to be escaped in it. -/
def memberText (name : String) (form : List Char) : List Char :=
  '"' :: (name.toList ++ '"' :: ':' :: '"' :: (form ++ ['"']))

/-- The text that an instruction is written as. -/
def compact (x : Instruction) : List Char :=
  '\x7b' :: (memberText "recipient" x.recipient.hexChars ++
    ',' :: (memberText "value" (Amount.hexChars x.value) ++
      ',' :: (memberText "transaction_hash" x.transaction.hexChars ++
        ',' :: (memberText "gas_price" (Amount.hexChars x.gasPrice) ++ ['\x7d']))))

theorem toJson_eq_record (x : Instruction) : x.toJson = Json.record x.members :=
  rfl

theorem map_fst_members (x : Instruction) : x.members.map Prod.fst = fieldNames :=
  rfl

/-! ## The value of a text -/

theorem legible_of_mem_members {x : Instruction} {member : String × Json}
    (h : member ∈ x.members) : Json.Legible (shape.member (.plain member.1)) member.2 := by
  simp only [members, List.mem_cons, List.not_mem_nil, or_false] at h
  rcases h with rfl | rfl | rfl | rfl <;> trivial

/-- An object that a reader cannot be mistaken in. -/
theorem legible_record {ms : List (String × Json)}
    (h : ∀ member ∈ ms, Json.Legible (shape.member (.plain member.1)) member.2) :
    Json.Legible shape (Json.record ms) := by
  rw [Json.record, Json.Legible, Json.membersLegible_iff]
  intro member hmember
  rcases List.mem_map.1 hmember with ⟨given, hgiven, rfl⟩
  exact h given hgiven

theorem legible_values (x : Instruction) : Json.Legible shape (.array x.values) :=
  ⟨trivial, fun h => absurd h (by decide), trivial, fun h => absurd h (by decide),
    trivial, fun h => absurd h (by decide), trivial, fun h => absurd h (by decide), trivial⟩

theorem ofJsonText?_render {json : Json} (h : Json.Legible shape json) :
    ofJsonText? json.render = ofJson? json := by
  rw [ofJsonText?, Json.ofText?_render h, Option.bind_some]

/-! ## The instruction of a value -/

theorem ofJson?_of_fields? {x : Instruction} {json : Json}
    (h : json.fields? fieldNames = some (x.values.map some)) : ofJson? json = some x := by
  have hvalues : x.values.map some = [some x.recipient.toJson, some (Amount.toJson x.value),
    some x.transaction.toJson, some (Amount.toJson x.gasPrice)] := rfl
  rw [ofJson?, h, hvalues]
  simp only [Octets.ofJson?_toJson, Amount.ofJson?_toJson, Option.bind_eq_bind, Option.bind_some,
    Option.pure_def]

theorem ofJson?_toJson (x : Instruction) : ofJson? x.toJson = some x :=
  ofJson?_of_fields? rfl

theorem ofJson?_values (x : Instruction) : ofJson? (.array x.values) = some x :=
  ofJson?_of_fields? rfl

/-- An instruction is read from its members in any order. -/
theorem ofJson?_of_perm {ms others : List (String × Json)} (h : ms.Perm others) :
    ofJson? (Json.record ms) = ofJson? (Json.record others) := by
  rw [ofJson?, ofJson?, Json.record, Json.record, Json.fields?_of_perm (h.map _)]

/-- How often a field is given. -/
def timesGiven (name : String) (ms : List (String × Json)) : Nat :=
  ms.countP fun member => member.1 == name

theorem timesGiven_cons (name : String) (member : String × Json) (ms : List (String × Json)) :
    timesGiven name (member :: ms) =
      timesGiven name ms + if member.1 == name then 1 else 0 :=
  List.countP_cons

theorem timesGiven_members {x : Instruction} {name : String} (h : name ∈ fieldNames) :
    timesGiven name x.members = 1 := by
  have hcount : timesGiven name x.members = fieldNames.countP fun field => field == name := by
    rw [← map_fst_members x, List.countP_map]
    rfl
  rw [hcount]
  simp only [fieldNames, List.mem_cons, List.not_mem_nil, or_false] at h
  rcases h with rfl | rfl | rfl | rfl <;> decide

/-- A field that is left out or repeated spoils an instruction. -/
theorem ofJson?_of_timesGiven_ne_one {name : String} {ms : List (String × Json)}
    (hname : name ∈ fieldNames) (h : timesGiven name ms ≠ 1) :
    ofJson? (Json.record ms) = none := by
  rw [ofJson?]
  split
  · rename_i recipient value transaction gasPrice hfields
    -- An instruction that is read has found every field once.
    have hcount := Json.countP_eq_one_of_fields? hfields (by
      simp only [List.mem_cons, List.not_mem_nil, or_false, forall_eq_or_imp, forall_eq, ne_eq,
        reduceCtorEq, not_false_eq_true, and_self]) name hname
    rw [List.countP_map] at hcount
    refine absurd ?_ h
    rw [← hcount, timesGiven]
    refine List.countP_congr fun member _ => ?_
    simp only [Function.comp_apply, beq_iff_eq, JsonString.plain.injEq]
  · rfl

/-- And so does a list of another length. -/
theorem ofJson?_array_of_length_ne {elements : List Json} (h : elements.length ≠ 4) :
    ofJson? (.array elements) = none := by
  rw [ofJson?]
  split
  · rename_i recipient value transaction gasPrice hfields
    have hnames : fieldNames.length = 4 := rfl
    rw [Json.fields?, hnames] at hfields
    by_cases hle : elements.length ≤ 4
    · rw [if_pos hle, Option.some.injEq] at hfields
      -- What is missing at the end would have to be among the four values.
      have hmissing : none ∈ elements.map some ++ List.replicate (4 - elements.length) none :=
        List.mem_append_right _ (List.mem_replicate.2 ⟨by omega, rfl⟩)
      rw [hfields] at hmissing
      simp only [List.mem_cons, List.not_mem_nil, reduceCtorEq, or_false] at hmissing
    · rw [if_neg hle] at hfields
      exact absurd hfields (by simp only [reduceCtorEq, not_false_eq_true])
  · rfl

/-! ## Texts -/

/-- The text that an instruction is written as. -/
theorem render_toJson (x : Instruction) : x.toJson.render = String.ofList x.compact := by
  -- All four fields are texts in which nothing has to be escaped.
  have htexts : x.toJson = Json.ofTexts [("recipient", x.recipient.hex),
      ("value", Amount.hex x.value), ("transaction_hash", x.transaction.hex),
      ("gas_price", Amount.hex x.gasPrice)] := rfl
  have hnames : ∀ name ∈ fieldNames, Json.Unescaped name :=
    fun _ => Json.unescaped_of_all (by decide +kernel)
  simp only [fieldNames, List.forall_mem_cons] at hnames
  rw [Json.render, htexts, Json.chars_ofTexts]
  · simp only [compact, memberText, Json.memberText, List.map_cons, List.map_nil,
      List.intercalate_cons_cons, List.intercalate_singleton, List.append_assoc, List.cons_append,
      List.nil_append, Octets.hex, Amount.hex, String.toList_ofList]
  · simp only [List.forall_mem_cons, List.not_mem_nil, false_implies, implies_true, hnames,
      Octets.unescaped_hex, Amount.unescaped_hex, and_self]

theorem ofJsonText?_of_perm {x : Instruction} {ms : List (String × Json)}
    (h : ms.Perm x.members) : ofJsonText? (Json.record ms).render = some x := by
  have hlegible := legible_record fun member hmember =>
    legible_of_mem_members (h.subset hmember)
  rw [ofJsonText?_render hlegible, ofJson?_of_perm h, ← toJson_eq_record, ofJson?_toJson]

theorem ofJsonText?_toJson (x : Instruction) : ofJsonText? x.toJson.render = some x :=
  ofJsonText?_of_perm (List.Perm.refl x.members)

/-- Members of which one is missing. -/
theorem ofJsonText?_of_dropped {x : Instruction} {member : String × Json}
    {ms : List (String × Json)} (h : (member :: ms).Perm x.members) :
    ofJsonText? (Json.record ms).render = none := by
  have hmember : member ∈ x.members := h.subset List.mem_cons_self
  have hname : member.1 ∈ fieldNames := by
    rw [← map_fst_members x]
    exact List.mem_map_of_mem hmember
  -- A missing member is given once too few. Counting does not depend on the order.
  have hcount : timesGiven member.1 (member :: ms) = 1 := by
    rw [timesGiven, h.countP_eq, ← timesGiven, timesGiven_members hname]
  rw [timesGiven_cons, if_pos (beq_self_eq_true _)] at hcount
  have hlegible := legible_record fun other hother =>
    legible_of_mem_members (h.subset (List.mem_cons_of_mem member hother))
  rw [ofJsonText?_render hlegible]
  exact ofJson?_of_timesGiven_ne_one hname (by omega)

/-- Members and one more of the same name, whatever its value is. -/
theorem ofJsonText?_of_repeated {x : Instruction} {name : String} {value : Json}
    {ms : List (String × Json)} (hname : name ∈ fieldNames)
    (hvalue : Json.Legible (shape.member (.plain name)) value)
    (h : ms.Perm ((name, value) :: x.members)) :
    ofJsonText? (Json.record ms).render = none := by
  -- The name is refused for being given twice, before its second value is looked at.
  have hcount : timesGiven name ms = 2 := by
    rw [timesGiven, h.countP_eq, ← timesGiven, timesGiven_cons, timesGiven_members hname,
      if_pos (beq_self_eq_true _)]
  have hlegible := legible_record fun member hmember => by
    rcases List.mem_cons.1 (h.subset hmember) with rfl | hgiven
    · exact hvalue
    · exact legible_of_mem_members hgiven
  rw [ofJsonText?_render hlegible]
  exact ofJson?_of_timesGiven_ne_one hname (by omega)

/-- What texts an instruction is read from, and from which it is not. -/
structure Restored : Prop where
  /-- It is written in this way. -/
  written : ∀ x : Instruction, x.toJson.render = String.ofList x.compact
  /-- It is read from the text that it is written as. -/
  read : ∀ x : Instruction, ofJsonText? x.toJson.render = some x
  /-- The order of members does not matter. -/
  reordered : ∀ (x : Instruction) (ms : List (String × Json)), ms.Perm x.members →
    ofJsonText? (Json.record ms).render = some x
  /-- The values may be listed in the order of the fields. -/
  listed : ∀ x : Instruction, ofJsonText? (Json.array x.values).render = some x
  /-- No member may be left out. -/
  dropped : ∀ (x : Instruction) (member : String × Json) (ms : List (String × Json)),
    (member :: ms).Perm x.members → ofJsonText? (Json.record ms).render = none
  /-- None may be repeated, neither with its value nor with another one. -/
  repeated : ∀ (x : Instruction) (name : String) (value : Json) (ms : List (String × Json)),
    name ∈ fieldNames → Json.Legible (shape.member (.plain name)) value →
      ms.Perm ((name, value) :: x.members) → ofJsonText? (Json.record ms).render = none
  /-- There are to be four values in a list. -/
  counted : ∀ elements : List Json, Json.Legible shape (.array elements) →
    elements.length ≠ 4 → ofJsonText? (Json.array elements).render = none
  /-- No two instructions are written as the same text. -/
  distinct : ∀ x y : Instruction, x.toJson.render = y.toJson.render → x = y

/-- Instructions are read from their texts, and each of these is that of one only. -/
theorem json_restored : Restored where
  written := render_toJson
  read := ofJsonText?_toJson
  reordered _ _ h := ofJsonText?_of_perm h
  listed x := by rw [ofJsonText?_render (legible_values x), ofJson?_values]
  dropped _ _ _ h := ofJsonText?_of_dropped h
  repeated _ _ _ _ hname hvalue h := ofJsonText?_of_repeated hname hvalue h
  counted _ helements h := by
    rw [ofJsonText?_render helements, ofJson?_array_of_length_ne h]
  distinct x y h := by
    -- Two instructions of one text would both be what is read from it.
    have hread := ofJsonText?_toJson x
    rw [h, ofJsonText?_toJson, Option.some.injEq] at hread
    exact hread.symm

end Instruction

end QuorumBridge
