import OrdinalAdmission.Patch.Operation

/-!
# Reading a written patch

A patch is sent as JSON whose paths are texts. `decode?_encode`: the operations that are read from
it are those that were written, so no step of a path is lost in its escaped text.
-/

namespace OrdinalAdmission

-- ---------------------------------------------------------------------------
-- Pointers
-- ---------------------------------------------------------------------------

namespace Text

theorem pieces_of_not_mem {sep : Char} {cs : List Char} (h : sep ∉ cs) : pieces sep cs = [cs] := by
  induction cs with
  | nil => rfl
  | cons c rest ih =>
    rw [List.mem_cons, not_or] at h
    simp [pieces, ih h.2, Ne.symm h.1]

theorem pieces_append {sep : Char} {cs : List Char} (h : sep ∉ cs) (rest : List Char) :
    pieces sep (cs ++ sep :: rest) = cs :: pieces sep rest := by
  induction cs with
  | nil =>
    obtain ⟨piece, more, hpieces⟩ := List.exists_cons_of_ne_nil (pieces_ne_nil sep rest)
    simp [pieces_cons hpieces, hpieces]
  | cons c front ih =>
    rw [List.mem_cons, not_or] at h
    simp [pieces, ih h.2, Ne.symm h.1]

end Text

namespace Pointer

theorem slash_not_mem_escape (cs : List Char) : '/' ∉ escape cs := by
  fun_induction escape cs with
  | case1 => simp
  | case2 rest ih => simpa using ih
  | case3 rest ih => simpa using ih
  | case4 c rest _ hne ih => simpa [eq_comm] using ⟨hne, ih⟩

theorem pieces_renderChars (step : String) (rest : Pointer) :
    Text.pieces '/' (escape step.toList ++ renderChars rest) =
      (step :: rest).map fun step => escape step.toList := by
  induction rest generalizing step with
  | nil => simpa [renderChars] using Text.pieces_of_not_mem (slash_not_mem_escape step.toList)
  | cons next rest ih =>
    have hchars : renderChars (next :: rest) =
        '/' :: (escape next.toList ++ renderChars rest) := by
      simp [renderChars]
    rw [hchars, Text.pieces_append (slash_not_mem_escape step.toList), ih]
    rfl

theorem mapM_unescape? (steps : Pointer) :
    (steps.map fun step => escape step.toList).mapM
      (fun step => (unescape? step).map String.ofList) = some steps := by
  induction steps with
  | nil => rfl
  | cons step rest ih => simp [List.mapM_cons, unescape?_escape, ih]

theorem parse?_render (pointer : Pointer) : parse? pointer.render = some pointer := by
  cases pointer with
  | nil => rfl
  | cons step rest =>
    have hchars : renderChars (step :: rest) =
        '/' :: (escape step.toList ++ renderChars rest) := by
      simp [renderChars]
    simp only [parse?, render, hchars, String.toList_ofList]
    rw [pieces_renderChars, mapM_unescape?]

end Pointer

-- ---------------------------------------------------------------------------
-- Operations
-- ---------------------------------------------------------------------------

namespace Patch

open Json (member?)

def text? : Json → Option String
  | .scalar (.text s) => some s
  | _ => none

def Operation.decode? : Json → Option Operation
  | .object members => do
    let path ← Pointer.parse? (← text? (← member? "path" members))
    match ← text? (← member? "op" members) with
    | "add" => return .add path (← member? "value" members)
    | "remove" => return .remove path
    | "replace" => return .replace path (← member? "value" members)
    | _ => none
  | _ => none

def decode? : Json → Option (List Operation)
  | .list operations => operations.mapM Operation.decode?
  | _ => none

theorem Operation.decode?_encode (operation : Operation) :
    Operation.decode? operation.encode = some operation := by
  cases operation <;> simp [decode?, encode, member?, text?, Json.text, Pointer.parse?_render]

theorem decode?_encode (patch : List Operation) : decode? (encode patch) = some patch := by
  simp only [decode?, encode]
  induction patch with
  | nil => rfl
  | cons operation rest ih => simp [List.mapM_cons, Operation.decode?_encode, ih]

end Patch

end OrdinalAdmission
