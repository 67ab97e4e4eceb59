import Mathlib.Data.List.Basic
import QuorumBridge.Proofs.Json.Reader

/-!
# Objects of texts

Most of what the library writes is an object of which every member is a text
that needs no escape. Such an object is written as it stands: each name and each
text between quotes, a colon between the two, and commas between the members.

## Main definitions

* `Json.Unescaped`: A text of which nothing is escaped.
* `Json.ofTexts`: An object of which all members are texts.
* `Json.memberText`: A member as it stands in such an object.

## Theorems

* `Json.unescaped_marked`: Marked hexadecimal digits are not escaped.
* `Json.legible_ofTexts`: An object of texts is read as it was written.
* `Json.chars_ofTexts`: How an object of texts is written.
-/

namespace QuorumBridge

namespace Json

/-- A text of which nothing is escaped. -/
def Unescaped (content : String) : Prop :=
  ∀ c ∈ content.toList, escape c = [c]

/-- It stands between its quotes as it is. -/
theorem quote_plain {content : String} (h : Unescaped content) :
    quote (.plain content) = '"' :: (content.toList ++ ['"']) := by
  have hflat : content.toList.flatMap escape = content.toList := by
    rw [List.flatMap_congr h, List.flatMap_singleton']
  show '"' :: (content.toList.flatMap escape ++ ['"']) = _
  rw [hflat]

/-- Whether anything of a few words is escaped can be tried out. -/
theorem unescaped_of_all {words : List String}
    (h : (words.all fun word => word.toList.all fun c => escape c == [c]) = true) {word : String}
    (hmem : word ∈ words) : Unescaped word :=
  fun c hc => eq_of_beq (List.all_eq_true.1 (List.all_eq_true.1 h word hmem) c hc)

theorem escape_of_mem_alphabet {c : Char} (h : c ∈ Hex.alphabet) : escape c = [c] :=
  eq_of_beq (Hex.of_mem_alphabet (p := fun d => escape d == [d]) (by decide +kernel) h)

theorem unescaped_marked {digits : List Char} (h : ∀ c ∈ digits, c ∈ Hex.alphabet) :
    Unescaped (String.ofList ('0' :: 'x' :: digits)) := by
  intro c hc
  rw [String.toList_ofList, List.mem_cons, List.mem_cons] at hc
  rcases hc with rfl | rfl | hdigit
  · decide
  · decide
  · exact escape_of_mem_alphabet (h c hdigit)

/-- A member with a text under a name. -/
def textMember (member : String × String) : JsonString × Json :=
  (.plain member.1, text member.2)

/-- An object with texts under these names. -/
def ofTexts (members : List (String × String)) : Json :=
  .object (members.map textMember)

/-- A member as it stands in an object, if nothing of it is escaped. -/
def memberText (member : String × String) : List Char :=
  '"' :: (member.1.toList ++ '"' :: ':' :: '"' :: (member.2.toList ++ ['"']))

theorem legible_ofTexts (shape : Shape) (members : List (String × String)) :
    Legible shape (ofTexts members) := by
  rw [ofTexts, Legible, membersLegible_iff]
  intro member hmember
  rcases List.mem_map.1 hmember with ⟨given, -, rfl⟩
  trivial

theorem quote_append_chars {member : String × String}
    (h : Unescaped member.1 ∧ Unescaped member.2) :
    quote (.plain member.1) ++ ':' :: chars (text member.2) = memberText member := by
  have hvalue : chars (text member.2) = quote (.plain member.2) := rfl
  rw [hvalue, quote_plain h.1, quote_plain h.2, memberText, List.cons_append, List.append_assoc,
    List.singleton_append]

variable {members : List (String × String)}

/-- The members are written as they are, with commas between them. -/
theorem memberChars_texts (h : ∀ member ∈ members, Unescaped member.1 ∧ Unescaped member.2) :
    memberChars (members.map textMember) = [','].intercalate (members.map memberText) := by
  induction members with
  | nil => rfl
  | cons first rest ih =>
    rw [List.forall_mem_cons] at h
    cases rest with
    | nil => exact (quote_append_chars h.1).trans List.intercalate_singleton.symm
    | cons second more =>
      -- A comma is written between two members, so what is behind the first one must be taken
      -- apart.
      have hfirst : memberChars ((first :: second :: more).map textMember) =
          quote (.plain first.1) ++ ':' ::
            (chars (text first.2) ++ ',' :: memberChars ((second :: more).map textMember)) := rfl
      have hjoined : [','].intercalate ((first :: second :: more).map memberText) =
          memberText first ++ [','] ++ [','].intercalate ((second :: more).map memberText) :=
        List.intercalate_cons_cons
      rw [hfirst, hjoined, ih h.2, ← quote_append_chars h.1]
      simp only [List.append_assoc, List.cons_append, List.nil_append]

theorem chars_ofTexts (h : ∀ member ∈ members, Unescaped member.1 ∧ Unescaped member.2) :
    (ofTexts members).chars =
      '\x7b' :: ([','].intercalate (members.map memberText) ++ ['\x7d']) := by
  rw [ofTexts, chars, memberChars_texts h]

end Json

end QuorumBridge
