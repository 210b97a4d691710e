/-!
# Fields

Cutting a text at a separator. There is always at least one field, and joining
the fields with the separator gives the text back.
-/

namespace QuicTelemetry.Text

/-- **The fields between the separators** of a text. -/
def fields (separator : Char) : List Char → List (List Char)
  | [] => [[]]
  | c :: rest =>
    if c = separator then [] :: fields separator rest
    else
      match fields separator rest with
      | [] => [[c]]
      | field :: others => (c :: field) :: others

theorem fields_ne_nil (separator : Char) (cs : List Char) : fields separator cs ≠ [] := by
  cases cs with
  | nil => simp [fields]
  | cons c rest =>
    unfold fields
    split
    · simp
    · split <;> simp

/-- The fields put together again. -/
def join (separator : Char) : List (List Char) → List Char
  | [] => []
  | [field] => field
  | field :: others => field ++ separator :: join separator others

theorem join_fields (separator : Char) (cs : List Char) :
    join separator (fields separator cs) = cs := by
  induction cs with
  | nil => rfl
  | cons c rest ih =>
    unfold fields
    split
    · next h =>
      cases hf : fields separator rest with
      | nil => exact absurd hf (fields_ne_nil _ _)
      | cons field others =>
        rw [hf] at ih
        simp [join, ih, h]
    · cases hf : fields separator rest with
      | nil => exact absurd hf (fields_ne_nil _ _)
      | cons field others =>
        rw [hf] at ih
        cases others with
        | nil => simpa [join] using ih
        | cons other others => simpa [join] using ih

/-- What stands in front of the first separator and what stands behind it, if
there is one. -/
def cut? (separator : Char) (cs : List Char) : Option (List Char × List Char) :=
  match cs.dropWhile (· ≠ separator) with
  | [] => none
  | _ :: rest => some (cs.takeWhile (· ≠ separator), rest)

end QuicTelemetry.Text
