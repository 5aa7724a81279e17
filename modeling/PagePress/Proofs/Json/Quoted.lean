import PagePress.Json.Quoted
import PagePress.Proofs.Json.Strings

/-!
# Quoted strings

What is written between quotes is one of the spellings of the string.
-/
namespace PagePress.Json

theorem hexDigit_hexDigit : ∀ n < 16, HexDigit n (hexDigit n) := by
  unfold HexDigit
  decide

/-- A control character is written by its number. -/
theorem hexFour_control {n : Nat} (small : n < 0x20) :
    HexFour n ['0', '0', hexDigit (n / 16), hexDigit (n % 16)] := by
  have zero : HexDigit 0 '0' := hexDigit_hexDigit 0 (by decide)
  have four := HexFour.digits zero zero (hexDigit_hexDigit (n / 16) (by omega))
    (hexDigit_hexDigit (n % 16) (by omega))
  rwa [show ((0 * 16 + 0) * 16 + n / 16) * 16 + n % 16 = n by omega] at four

theorem charText_escapedChar (c : Char) : CharText c (escapedChar c) := by
  unfold escapedChar
  split
  -- The characters with an escape of their own.
  all_goals try exact .short (by decide)
  next unquoted unescaped _ _ _ _ _ =>
    split
    next control => exact .number (hexFour_control control)
    next shown => exact .plain (Nat.le_of_not_lt shown) unquoted unescaped

theorem stringText_flatMap_escapedChar (cs : List Char) :
    StringText cs (cs.flatMap escapedChar) := by
  induction cs with
  | nil => exact .empty
  | cons c cs ih => exact .cons (charText_escapedChar c) ih

/-- A quoted string stands for the string. -/
theorem spells_quote (s : String) : Spells (.string s) (quote s).toList := by
  rw [quote, String.toList_ofList]
  exact .string (stringText_flatMap_escapedChar s.toList)

/-- A member whose name is written as it is quoted. -/
def Member.quoted (name : String) (value : Value) (text : List Char) : Member where
  name := name
  spelling := name.toList.flatMap escapedChar
  spelled := stringText_flatMap_escapedChar name.toList
  value := value
  text := text

end PagePress.Json
