import PagePress.Command.Scaffold
import PagePress.Proofs.Keys

/-!
# Written settings

The settings that are written for a new document are read back as they were meant.
-/
namespace PagePress.Config

open Json

/-- A member on a line of its own, two columns in. -/
def lineMember (name : String) (value : Value) (text : List Char) : Member :=
  { Member.quoted name value text with
    margin := ['\n', ' ', ' '], margin_blank := by unfold Blanks; decide
    before := [' '], before_blank := blanks_singleton (by decide) }

/-- The members that are written for a theme. -/
def membersFor (themeId : String) : List Member :=
  [lineMember "defaultTheme" (.string themeId) (quote themeId).toList,
    lineMember "includeSource" (.bool true) ['t', 'r', 'u', 'e'],
    { lineMember "outDir" (.string "dist") (quote "dist").toList with
      after := ['\n'], after_blank := blanks_singleton (by decide) }]

theorem forTheme_toList (themeId : String) : (forTheme themeId).toList =
    '\x7b' :: (joined ((membersFor themeId).map Member.piece) ++ ['\x7d']) ++ ['\n'] := by
  simp [forTheme, Theme.ofLines, membersFor, lineMember, joined, Piece.written, Member.quoted,
    Member.piece, Member.behindQuote, String.join]
  rfl

/-- The settings written for a theme choose it and leave the rest at what is usual. -/
theorem parse_forTheme (themeId : String) :
    parse (forTheme themeId) = .ok { defaultTheme := themeId } := by
  have document : Document (.object ((membersFor themeId).map Member.entry))
      (forTheme themeId).toList := by
    rw [forTheme_toList]
    refine (Spells.object (List.cons_ne_nil _ _) ?_).document blanks_nil
      (blanks_singleton (by decide))
    exact List.forall_mem_cons.2 ⟨spells_quote themeId, List.forall_mem_cons.2
      ⟨.yes, List.forall_mem_singleton.2 (spells_quote "dist")⟩⟩
  have once : ((settings ((membersFor themeId).map Member.entry)).map Prod.fst).Nodup :=
    show ["defaultTheme", "includeSource", "outDir"].Nodup by decide
  have decoded : Decoded ((membersFor themeId).map Member.entry) { defaultTheme := themeId } := by
    constructor
    · intro key v found
      cases key with
      | defaultTheme =>
        obtain rfl : Value.string themeId = v := Option.some.inj found
        rfl
      | includeSource =>
        obtain rfl : Value.bool true = v := Option.some.inj found
        rfl
      | outDir =>
        obtain rfl : Value.string "dist" = v := Option.some.inj found
        rfl
      | maxSourceBytes => exact nomatch (show (none : Option Value) = some v from found)
    · -- Every key but the last has a member.
      intro key missing
      cases key with
      | maxSourceBytes => rfl
      | _ => cases (missing : some _ = none)
  have read := (toOption_parse_eq_some_iff document once _).2 decoded
  cases result : parse (forTheme themeId) with
  | error failure =>
    rw [result] at read
    cases read
  | ok config =>
    rw [result] at read
    exact congrArg Except.ok (Option.some.inj read)

end PagePress.Config
