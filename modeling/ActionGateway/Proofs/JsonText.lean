import ActionGateway.Json.Printer
import ActionGateway.Proofs.Utf8

/-!
# The texts of JSON values

The printer appends to what is already written. Here its result is taken apart again: what is
written for a value does not depend on what stands before it (`Json.write_eq`), so the text of an
array or an object is put together from the texts of its parts (`Json.text_arr`,
`Json.writeItems_cons`, …). From these equations everything about texts follows by recursion over
the value.

The printer has one function for values, one for items and one for members, which call each other
with the text so far. The separator before an item depends on whether it is the first, so the last
two carry a flag, and so do the equations about them.
-/

namespace ActionGateway

namespace Json

/-! ## Strings

A string is written character by character, each as it is or escaped. The text in quotes is given
here as one expression, which later proofs take apart. -/

/-- A string in quotes. -/
def quotedText (s : String) : String :=
  "\x22" ++ String.ofList (s.toList.flatMap escaped) ++ "\x22"

/-- A string is written behind what there is. -/
theorem writeString_eq (out s : String) : writeString out s = out ++ quotedText s := by
  have hfold : ∀ (chars : List Char) (out : String),
      chars.foldl (fun out c => (escaped c).foldl String.push out) out =
        out ++ String.ofList (chars.flatMap escaped) := by
    intro chars
    -- the induction is on what is still to be written, for any text so far
    induction chars with
    | nil => intro out; exact String.append_empty.symm
    | cons c rest ih =>
      intro out
      rw [List.foldl_cons, ih, Utf8.foldl_push, List.flatMap_cons, String.ofList_append,
        String.append_assoc]
  apply String.toList_inj.mp
  simp [writeString, hfold, quotedText]

/-! ## What stands before a value

The three statements are proved together, by recursion over the value as the printer does it. Each
says that the text so far comes first and is not looked at. -/

/-- One character more at the end. The printer pushes, and the statements append. -/
theorem push_eq_append (out : String) (c : Char) : out.push c = out ++ String.ofList [c] := by
  rw [String.push_eq_append, String.singleton_eq_ofList]

mutual

/-- **What is written for a value does not depend on what stands before it.** The printer appends
for the sake of its cost; proofs put texts together instead. -/
theorem write_eq (out : String) (value : Json) : write out value = out ++ text value := by
  cases value with
  | null => rw [text, write, write, String.empty_append]
  | bool b => cases b <;> rw [text, write, write, String.empty_append]
  | num n => rw [text, write, write, String.empty_append]
  | str s => rw [text, write, write, writeString_eq, writeString_eq, String.empty_append]
  | arr items =>
    rw [text, write, write, writeItems_eq (out.push '['), writeItems_eq ("".push '[')]
    simp only [push_eq_append, String.empty_append, String.append_assoc]
  | obj members =>
    rw [text, write, write, writeMembers_eq (out.push '\x7b'), writeMembers_eq ("".push '\x7b')]
    simp only [push_eq_append, String.empty_append, String.append_assoc]

/-- Neither does what is written for items. -/
theorem writeItems_eq (out : String) (first : Bool) (items : List Json) :
    writeItems out first items = out ++ writeItems "" first items := by
  cases items with
  | nil => rw [writeItems, writeItems, String.append_empty]
  | cons item rest =>
    have hitem (out : String) : writeItems out first (item :: rest) =
        (if first then out else out.push ',') ++ text item ++ writeItems "" false rest := by
      rw [writeItems, writeItems_eq (write _ item), write_eq]
    rw [hitem, hitem ""]
    cases first <;> simp [push_eq_append, String.append_assoc]

/-- Nor what is written for members. -/
theorem writeMembers_eq (out : String) (first : Bool) (members : List (String × Json)) :
    writeMembers out first members = out ++ writeMembers "" first members := by
  cases members with
  | nil => rw [writeMembers, writeMembers, String.append_empty]
  | cons member rest =>
    obtain ⟨name, value⟩ := member
    have hmember (out : String) : writeMembers out first ((name, value) :: rest) =
        (if first then out else out.push ',') ++ quotedText name ++ ":" ++ text value ++
          writeMembers "" false rest := by
      rw [writeMembers, writeMembers_eq (write _ value), write_eq, writeString_eq, push_eq_append]
    rw [hmember, hmember ""]
    cases first <;> simp [push_eq_append, String.append_assoc]

end

/-! ## Texts from the texts of parts

These equations have no text so far. They are all that the proofs about texts use of the printer. -/

/-- A string is its content in quotes. -/
theorem text_str (s : String) : text (str s) = quotedText s := by
  rw [text, write, writeString_eq, String.empty_append]

/-- An array is its items in brackets. -/
theorem text_arr (items : List Json) :
    text (arr items) = "[" ++ writeItems "" true items ++ "]" := by
  rw [text, write, writeItems_eq, push_eq_append, push_eq_append, String.empty_append]

/-- An object is its members in braces. -/
theorem text_obj (members : List (String × Json)) :
    text (obj members) = "\x7b" ++ writeMembers "" true members ++ "\x7d" := by
  rw [text, write, writeMembers_eq, push_eq_append, push_eq_append, String.empty_append]

/-- Before each item but the first there is a comma. -/
theorem writeItems_cons (first : Bool) (item : Json) (rest : List Json) :
    writeItems "" first (item :: rest) =
      (if first then "" else ",") ++ text item ++ writeItems "" false rest := by
  rw [writeItems, writeItems_eq, write_eq]
  cases first <;> rfl

/-- A member is its name, a colon and its value, and has a comma before it like an item. -/
theorem writeMembers_cons (first : Bool) (name : String) (value : Json)
    (rest : List (String × Json)) :
    writeMembers "" first ((name, value) :: rest) =
      (if first then "" else ",") ++ quotedText name ++ ":" ++ text value ++
        writeMembers "" false rest := by
  rw [writeMembers, writeMembers_eq, write_eq, writeString_eq, push_eq_append]
  cases first <;> rfl

end Json

end ActionGateway
