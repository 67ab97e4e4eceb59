import QuorumBridge.Json.Reader
import QuorumBridge.Proofs.Json.Token

/-!
# Values are read as they were written

The written form of a value is read as the value, so no other value has it.

Two kinds of value are left out. A number that is no count keeps its literal,
and a literal may be any text. And where a byte string is expected, an array
may not go on behind the last byte, since what stands there is read by a rule
of its own. Nothing of either kind is ever written by the library.

The readers count down levels, and the three of them call each other. So the
statement about all three is proved at once, by induction on the count. An
array or an object spends one on itself, and one on every element or member.
Each of these has at least one character of its own, so twice the length of
the text is enough.

## Main definitions

* `Json.Legible`: A value that is read as it was written.

## Theorems

* `Json.ofText?_render`: The written form of a value is read as it.
* `Json.render_injective`: No two values have the same written form.
-/

namespace QuorumBridge

namespace Json

mutual

/-- A value that is read as it was written, where this shape is expected. -/
def Legible : Shape → Json → Prop
  | shape, .array elements => ElementsLegible shape elements
  | shape, .object members => MembersLegible shape members
  | _, .number _ => False
  | _, _ => True

/-- Elements that are. Behind the last byte of a byte string there are none. -/
def ElementsLegible : Shape → List Json → Prop
  | _, [] => True
  | shape, first :: rest =>
    Legible shape.first first ∧ (shape.rest.isFull = true → rest = []) ∧
      ElementsLegible shape.rest rest

/-- Members that are. -/
def MembersLegible : Shape → List (JsonString × Json) → Prop
  | _, [] => True
  | shape, (name, value) :: rest =>
    Legible (shape.member name) value ∧ MembersLegible shape rest

end

theorem membersLegible_iff {shape : Shape} {members : List (JsonString × Json)} :
    MembersLegible shape members ↔
      ∀ member ∈ members, Legible (shape.member member.1) member.2 := by
  induction members with
  | nil => exact ⟨fun _ member h => absurd h List.not_mem_nil, fun _ => trivial⟩
  | cons first rest ih => rw [List.forall_mem_cons, ← ih, MembersLegible]

theorem elementChars_cons_cons (first second : Json) (rest : List Json) :
    elementChars (first :: second :: rest) =
      chars first ++ ',' :: elementChars (second :: rest) :=
  rfl

theorem memberChars_cons_cons (name : JsonString) (value : Json) (second : JsonString × Json)
    (rest : List (JsonString × Json)) :
    memberChars ((name, value) :: second :: rest) =
      quote name ++ ':' :: (chars value ++ ',' :: memberChars (second :: rest)) :=
  rfl

namespace Reader

open Token

/-! ## How a written form begins -/

theorem skip_cons {c : Char} (h : isSpace c = false) (rest : List Char) :
    skip (c :: rest) = c :: rest := by
  rw [skip, List.dropWhile_cons_of_neg (by rw [h]; decide)]

/-- A written form begins with no space, and not as an array ends. -/
theorem exists_chars_eq_cons {shape : Shape} {json : Json} (h : Legible shape json) :
    ∃ c text, chars json = c :: text ∧ isSpace c = false ∧ c ≠ ']' := by
  cases json with
  | null => exact ⟨'n', "ull".toList, rfl, by decide, by decide⟩
  | bool value =>
    cases value with
    | true => exact ⟨'t', "rue".toList, rfl, by decide, by decide⟩
    | false => exact ⟨'f', "alse".toList, rfl, by decide, by decide⟩
  | natural value =>
    -- Only a number has no fixed first character. It has a digit instead.
    rcases exists_toDigits_eq_cons value with ⟨c, text, hdigits, hc⟩
    exact ⟨c, text, hdigits, isSpace_of_isDigit hc, ne_of_isDigit hc (by decide)⟩
  | number literal => exact absurd h id
  | string content =>
    rcases quoted_quote content with ⟨text, hquote, -⟩
    exact ⟨'"', text, hquote, by decide, by decide⟩
  | array elements => exact ⟨'[', _, rfl, by decide, by decide⟩
  | object members => exact ⟨'\x7b', _, rfl, by decide, by decide⟩

theorem length_chars_pos {shape : Shape} {json : Json} (h : Legible shape json) :
    0 < (chars json).length := by
  rcases exists_chars_eq_cons h with ⟨c, text, hchars, -, -⟩
  rw [hchars, List.length_cons]
  exact Nat.succ_pos _

/-- So do elements, the first of which comes first. -/
theorem exists_elementChars_eq_cons {shape : Shape} {first : Json} (others : List Json)
    (h : Legible shape first) :
    ∃ c text, elementChars (first :: others) = c :: text ∧ isSpace c = false ∧ c ≠ ']' := by
  rcases exists_chars_eq_cons h with ⟨c, text, hchars, hc, hne⟩
  cases others with
  | nil => exact ⟨c, text, by rw [elementChars, hchars], hc, hne⟩
  | cons second rest =>
    exact ⟨c, text ++ ',' :: elementChars (second :: rest),
      by rw [elementChars_cons_cons, hchars, List.cons_append], hc, hne⟩

/-- And members begin with a quote. -/
theorem exists_memberChars_eq_cons (first : JsonString × Json)
    (others : List (JsonString × Json)) :
    ∃ text, memberChars (first :: others) = '"' :: text := by
  rcases quoted_quote first.1 with ⟨name, hname, -⟩
  cases others with
  | nil => exact ⟨name ++ ':' :: chars first.2, by rw [memberChars, hname, List.cons_append]⟩
  | cons second rest =>
    exact ⟨name ++ ':' :: (chars first.2 ++ ',' :: memberChars (second :: rest)),
      by rw [memberChars_cons_cons, hname, List.cons_append]⟩

/-! ## What one reader does -/

section Step

variable {fuel : Nat} {shape : Shape} {c : Char} {text behind rest : List Char} {first : Json}
  {name : JsonString}

theorem value_of_isDigit (h : c.isDigit = true) :
    value (fuel + 1) shape (c :: rest) = Token.number (c :: rest) := by
  rw [value, skip_cons (isSpace_of_isDigit h)]
  simp only [ne_of_isDigit h (d := '"') (by decide), ne_of_isDigit h (d := '[') (by decide),
    ne_of_isDigit h (d := '\x7b') (by decide), ne_of_isDigit h (d := 'n') (by decide),
    ne_of_isDigit h (d := 't') (by decide), ne_of_isDigit h (d := 'f') (by decide), if_false]

theorem value_array (hspace : isSpace c = false) (hne : c ≠ ']') :
    value (fuel + 1) shape ('[' :: c :: rest) =
      (elements fuel shape (c :: rest)).map fun read => (.array read.1, read.2) := by
  have hskip : skip ('[' :: c :: rest) = '[' :: c :: rest := rfl
  rw [value]
  simp only [hskip, skip_cons hspace, if_true]
  rw [if_neg (by decide)]
  -- The next character is not the one that closes the array, so elements are read.
  split
  · rename_i heq
    exact absurd (List.cons.inj heq).1 hne
  · rfl

/-- The last element is read up to the closing bracket, also that of a byte string. -/
theorem elements_last (h : value fuel shape.first text = some (first, ']' :: rest)) :
    elements (fuel + 1) shape text = some ([first], rest) := by
  rw [elements, h]
  cases hfull : shape.rest.isFull with
  | true =>
    show ((Overrun.close (']' :: rest)).map fun rest => ([first], rest)) = _
    rw [Overrun.close_bracket, Option.map_some]
  | false => rfl

theorem elements_comma (h : value fuel shape.first text = some (first, ',' :: behind))
    (hfull : shape.rest.isFull = false) :
    elements (fuel + 1) shape text =
      (elements fuel shape.rest behind).map fun read => (first :: read.1, read.2) := by
  rw [elements, h]
  show (if shape.rest.isFull = true then _ else _) = _
  rw [hfull]
  rfl

theorem members_last (hname : quoted text = some (name, ':' :: behind))
    (h : value fuel (shape.member name) behind = some (first, '\x7d' :: rest)) :
    members (fuel + 1) shape ('"' :: text) = some ([(name, first)], rest) := by
  have hskip : skip ('"' :: text) = '"' :: text := rfl
  have hcolon : skip (':' :: behind) = ':' :: behind := rfl
  have hbrace : skip ('\x7d' :: rest) = '\x7d' :: rest := rfl
  simp only [members, hskip, hname, hcolon, h, hbrace]

theorem members_comma (hname : quoted text = some (name, ':' :: behind))
    (h : value fuel (shape.member name) behind = some (first, ',' :: rest)) :
    members (fuel + 1) shape ('"' :: text) =
      (members fuel shape rest).map fun read => ((name, first) :: read.1, read.2) := by
  have hskip : skip ('"' :: text) = '"' :: text := rfl
  have hcolon : skip (':' :: behind) = ':' :: behind := rfl
  have hcomma : skip (',' :: rest) = ',' :: rest := rfl
  simp only [members, hskip, hname, hcolon, h, hcomma]

end Step

/-! ## What all three do -/

/-- What the readers do when they may go this deep. -/
structure Reads (fuel : Nat) : Prop where
  value : ∀ shape json rest, Legible shape json → 2 * (chars json).length ≤ fuel → Ends rest →
    value fuel shape (chars json ++ rest) = some (json, rest)
  elements : ∀ shape first others rest, ElementsLegible shape (first :: others) →
    2 * (elementChars (first :: others)).length + 1 ≤ fuel →
      elements fuel shape (elementChars (first :: others) ++ ']' :: rest) =
        some (first :: others, rest)
  members : ∀ shape first others rest, MembersLegible shape (first :: others) →
    2 * (memberChars (first :: others)).length + 1 ≤ fuel →
      members fuel shape (memberChars (first :: others) ++ '\x7d' :: rest) =
        some (first :: others, rest)

theorem reads_zero : Reads 0 where
  value shape json rest h hfuel hrest := by
    have hpos := length_chars_pos h
    omega
  elements shape first others rest h hfuel := by omega
  members shape first others rest h hfuel := by omega

variable {fuel : Nat}

theorem Reads.value_succ (ih : Reads fuel) (shape : Shape) (json : Json) (rest : List Char)
    (h : Legible shape json) (hfuel : 2 * (chars json).length ≤ fuel + 1) (hrest : Ends rest) :
    Reader.value (fuel + 1) shape (chars json ++ rest) = some (json, rest) := by
  cases json with
  | null => rfl
  | bool value => cases value <;> rfl
  | natural n =>
    rcases exists_toDigits_eq_cons n with ⟨c, text, hdigits, hc⟩
    rw [chars, hdigits, List.cons_append, value_of_isDigit hc, ← List.cons_append, ← hdigits,
      number_toDigits n hrest]
  | number literal => exact absurd h id
  | string content =>
    rcases quoted_quote content with ⟨text, hquote, hread⟩
    rw [chars, hquote, List.cons_append]
    show ((quoted (text ++ rest)).map fun read => (Json.string read.1, read.2)) = _
    rw [hread, Option.map_some]
  | array elements =>
    cases elements with
    | nil => rfl
    | cons first others =>
      rw [Legible] at h
      -- The two brackets pay for the level that they open.
      rw [chars, List.length_cons, List.length_append, List.length_singleton] at hfuel
      have hread := ih.elements shape first others rest h (by omega)
      rcases exists_elementChars_eq_cons others h.1 with ⟨c, text, hchars, hc, hne⟩
      rw [chars, List.cons_append, List.append_assoc, List.singleton_append]
      rw [hchars, List.cons_append] at hread ⊢
      rw [value_array hc hne, hread, Option.map_some]
  | object members =>
    cases members with
    | nil => rfl
    | cons first others =>
      rw [Legible] at h
      rw [chars, List.length_cons, List.length_append, List.length_singleton] at hfuel
      have hread := ih.members shape first others rest h (by omega)
      rcases exists_memberChars_eq_cons first others with ⟨text, hchars⟩
      rw [chars, List.cons_append, List.append_assoc, List.singleton_append]
      rw [hchars, List.cons_append] at hread ⊢
      show ((Reader.members fuel shape ('"' :: (text ++ '\x7d' :: rest))).map
        fun read => (Json.object read.1, read.2)) = _
      rw [hread, Option.map_some]

theorem Reads.elements_succ (ih : Reads fuel) (shape : Shape) (first : Json) (others : List Json)
    (rest : List Char) (h : ElementsLegible shape (first :: others))
    (hfuel : 2 * (elementChars (first :: others)).length + 1 ≤ fuel + 1) :
    Reader.elements (fuel + 1) shape (elementChars (first :: others) ++ ']' :: rest) =
      some (first :: others, rest) := by
  rw [ElementsLegible] at h
  rcases h with ⟨hfirst, hfull, hothers⟩
  cases others with
  | nil =>
    rw [elementChars] at hfuel ⊢
    exact elements_last (ih.value _ first _ hfirst (by omega) (ends_cons (by decide)))
  | cons second more =>
    -- There is more to come, so the shape is that of no byte string that ends here.
    have hnotFull : shape.rest.isFull = false := by
      rw [← Bool.not_eq_true]
      exact fun hf => absurd (hfull hf) (List.cons_ne_nil _ _)
    rw [elementChars_cons_cons] at hfuel ⊢
    rw [List.length_append, List.length_cons] at hfuel
    have hpos := length_chars_pos hfirst
    have hread := ih.value _ first (',' :: (elementChars (second :: more) ++ ']' :: rest)) hfirst
      (by omega) (ends_cons (by decide))
    rw [List.append_assoc, List.cons_append, elements_comma hread hnotFull,
      ih.elements _ second more rest hothers (by omega), Option.map_some]

theorem Reads.members_succ (ih : Reads fuel) (shape : Shape) (first : JsonString × Json)
    (others : List (JsonString × Json)) (rest : List Char)
    (h : MembersLegible shape (first :: others))
    (hfuel : 2 * (memberChars (first :: others)).length + 1 ≤ fuel + 1) :
    Reader.members (fuel + 1) shape (memberChars (first :: others) ++ '\x7d' :: rest) =
      some (first :: others, rest) := by
  rw [MembersLegible] at h
  rcases h with ⟨hfirst, hothers⟩
  rcases first with ⟨name, json⟩
  rcases quoted_quote name with ⟨text, hquote, hname⟩
  -- The fuel is twice the text. Name and value are shorter than that, by the marks between them.
  have hpos := length_chars_pos hfirst
  cases others with
  | nil =>
    rw [memberChars, hquote, List.cons_append, List.length_cons, List.length_append,
      List.length_cons] at hfuel
    have hread := ih.value _ json ('\x7d' :: rest) hfirst (by omega) (ends_cons (by decide))
    rw [memberChars, hquote, List.cons_append, List.cons_append, List.append_assoc,
      List.cons_append]
    -- A brace closes the object behind the last member.
    exact members_last (hname _) hread
  | cons second more =>
    rw [memberChars_cons_cons, hquote, List.cons_append, List.length_cons,
      List.length_append, List.length_cons, List.length_append, List.length_cons] at hfuel
    have hread := ih.value _ json (',' :: (memberChars (second :: more) ++ '\x7d' :: rest)) hfirst
      (by omega) (ends_cons (by decide))
    rw [memberChars_cons_cons, hquote, List.cons_append, List.cons_append,
      List.append_assoc, List.cons_append, List.append_assoc, List.cons_append,
      -- A comma behind a member asks for the next one, which is read with what fuel is left.
      members_comma (hname _) hread, ih.members _ second more rest hothers (by omega),
      Option.map_some]

/-- However deep they may go, if only deep enough. -/
theorem reads (fuel : Nat) : Reads fuel := by
  induction fuel with
  | zero => exact reads_zero
  | succ fuel ih =>
    exact { value := ih.value_succ, elements := ih.elements_succ, members := ih.members_succ }

end Reader

/-- The written form of a value is read as the value. -/
theorem ofText?_render {shape : Shape} {json : Json} (h : Legible shape json) :
    ofText? shape json.render = some json := by
  have hread := (Reader.reads (2 * json.chars.length + 2)).value shape json [] h (by omega)
    Token.ends_nil
  rw [List.append_nil] at hread
  rw [ofText?, ofChars?, render, String.toList_ofList, hread]
  rfl

/-- So a value is determined by its written form, whatever is expected of it. -/
theorem render_injective {shape : Shape} {x y : Json} (hx : Legible shape x) (hy : Legible shape y)
    (h : x.render = y.render) : x = y := by
  have hread := ofText?_render hx
  rw [h, ofText?_render hy, Option.some.injEq] at hread
  exact hread.symm

end Json

end QuorumBridge
