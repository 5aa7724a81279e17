import PagePress.Pipeline
import PagePress.Proofs.Overwritten
import PagePress.Theme.Basic

/-!
# Escaped text

The four replacements come to one pass over the text. The result holds no markup, and read once it
is the text again, whatever references stood in it before (`escapePlain_exact`). So a refused
document is shown as it is, and neither the title nor the class of a theme gets out of its place in
a page.
-/
namespace PagePress

namespace Html

/-- The characters that escaped text does not hold as they are. -/
def marks : List Char := ['&', '<', '>', '\x22']

/-- What a character is written as: a mark by its reference, any other character as it is. -/
def written : Char → List Char
  | '&' => "&amp;".toList
  | '<' => "&lt;".toList
  | '>' => "&gt;".toList
  | '\x22' => "&quot;".toList
  | c => [c]

/-- Turns the references of the marks back into characters, in one pass. -/
def unescape : List Char → List Char
  | [] => []
  | '&' :: 'a' :: 'm' :: 'p' :: ';' :: rest => '&' :: unescape rest
  | '&' :: 'l' :: 't' :: ';' :: rest => '<' :: unescape rest
  | '&' :: 'g' :: 't' :: ';' :: rest => '>' :: unescape rest
  | '&' :: 'q' :: 'u' :: 'o' :: 't' :: ';' :: rest => '\x22' :: unescape rest
  | c :: rest => c :: unescape rest

/-- Text in which nothing is taken for markup: of the marks it holds only ampersands, and each of
them begins the reference of a mark. -/
structure Unmarked (text : List Char) : Prop where
  opening : '<' ∉ text
  closing : '>' ∉ text
  quote : '\x22' ∉ text
  references : ∀ before after, text = before ++ '&' :: after →
    ∃ mark ∈ marks, written mark <+: '&' :: after

variable {c : Char} {text : List Char}

theorem written_of_plain (plain : c ∉ marks) : written c = [c] := by
  unfold written
  split
  · exact absurd (show '&' ∈ marks by decide) plain
  · exact absurd (show '<' ∈ marks by decide) plain
  · exact absurd (show '>' ∈ marks by decide) plain
  · exact absurd (show '\x22' ∈ marks by decide) plain
  · rfl

/-- A reference begins with its only mark. -/
theorem written_of_mark (known : c ∈ marks) :
    ∃ name, written c = '&' :: name ∧ ∀ d ∈ name, d ∉ marks := by
  simp only [marks, List.mem_cons, List.not_mem_nil, or_false] at known
  rcases known with rfl | rfl | rfl | rfl
  · exact ⟨"amp;".toList, rfl, foreign_of_all (by decide)⟩
  · exact ⟨"lt;".toList, rfl, foreign_of_all (by decide)⟩
  · exact ⟨"gt;".toList, rfl, foreign_of_all (by decide)⟩
  · exact ⟨"quot;".toList, rfl, foreign_of_all (by decide)⟩

theorem mem_written {d : Char} (member : d ∈ written c) (mark : d ∈ marks) : d = '&' := by
  by_cases known : c ∈ marks
  · obtain ⟨name, shape, plain⟩ := written_of_mark known
    rw [shape, List.mem_cons] at member
    exact member.resolve_right fun inside => plain d inside mark
  · rw [written_of_plain known, List.mem_singleton] at member
    exact absurd (member ▸ mark) known

theorem of_written_split {before after : List Char} (split : written c = before ++ '&' :: after) :
    c ∈ marks ∧ before = [] := by
  by_cases known : c ∈ marks
  · refine ⟨known, ?_⟩
    obtain ⟨name, shape, plain⟩ := written_of_mark known
    cases before with
    | nil => rfl
    | cons d before =>
      obtain ⟨-, rfl⟩ := List.cons.inj (shape.symm.trans split)
      exact absurd (show '&' ∈ marks by decide) (plain '&' (by simp))
  · rw [written_of_plain known] at split
    cases before with
    | nil => exact absurd (List.cons.inj split).1 fun same => known (same ▸ by decide)
    | cons d before => simp at split

/-- Every ampersand of a written text begins what is written for one of its marks. -/
theorem opens_of_split {before after : List Char}
    (split : text.flatMap written = before ++ '&' :: after) :
    ∃ mark ∈ marks, written mark <+: '&' :: after := by
  induction text generalizing before with
  | nil => simp at split
  | cons c rest ih =>
    rw [List.flatMap_cons] at split
    rcases List.append_eq_append_iff.1 split with ⟨behind, -, later⟩ | ⟨piece, first, later⟩
    · exact ih later
    · cases piece with
      | nil => exact ih (show rest.flatMap written = [] ++ '&' :: after from later.symm)
      | cons d piece =>
        obtain ⟨rfl, rfl⟩ := List.cons.inj later
        obtain ⟨known, rfl⟩ := of_written_split first
        exact ⟨c, known, first ▸ List.prefix_append _ _⟩

theorem unmarked_flatMap (text : List Char) : Unmarked (text.flatMap written) := by
  have foreign : ∀ mark ∈ marks, mark ≠ '&' → mark ∉ text.flatMap written := by
    intro mark known other member
    obtain ⟨c, -, inside⟩ := List.mem_flatMap.1 member
    exact other (mem_written inside known)
  exact {
    opening := foreign '<' (by decide) (by decide)
    closing := foreign '>' (by decide) (by decide)
    quote := foreign '\x22' (by decide) (by decide)
    references := fun before after split => opens_of_split split }

theorem unescape_cons (plain : c ≠ '&') (rest : List Char) :
    unescape (c :: rest) = c :: unescape rest := by
  rw [unescape] <;> exact fun _ same => absurd same plain

theorem unescape_written (c : Char) (rest : List Char) :
    unescape (written c ++ rest) = c :: unescape rest := by
  by_cases known : c ∈ marks
  · simp only [marks, List.mem_cons, List.not_mem_nil, or_false] at known
    rcases known with rfl | rfl | rfl | rfl <;> rfl
  · rw [written_of_plain known, List.singleton_append, unescape_cons]
    exact fun ampersand => known (ampersand ▸ by decide)

theorem unescape_flatMap (text : List Char) : unescape (text.flatMap written) = text := by
  induction text with
  | nil => rfl
  | cons c rest ih => rw [List.flatMap_cons, unescape_written, ih]

/-! ### The replacements -/

/-- Each mark replaced by its reference, in one pass. -/
def escapeOnce (s : String) : String := String.ofList (s.toList.flatMap written)

theorem toList_substitute (f : Char → String) (s : String) :
    (substitute f s).toList = s.toList.flatMap fun c => (f c).toList := by
  have pass : ∀ (cs : List Char) (out : String),
      (cs.foldl (fun out c => out ++ f c) out).toList =
        out.toList ++ cs.flatMap fun c => (f c).toList := by
    intro cs
    induction cs with
    | nil => simp
    | cons c cs ih => intro out; simp [ih]
  rw [substitute, String.foldl_eq_foldl_toList, pass, String.toList_empty, List.nil_append]

theorem toList_replaceChar (c : Char) (replacement s : String) :
    (replaceChar c replacement s).toList =
      s.toList.flatMap fun d => if d == c then replacement.toList else [d] := by
  rw [replaceChar, toList_substitute]
  congr 1
  funext d
  split <;> simp

/-- A replacement does not touch what an earlier one has written, since the ampersand comes first. -/
theorem escapePlain_eq_once (s : String) : escapePlain s = escapeOnce s := by
  rw [← String.toList_inj, escapeOnce, String.toList_ofList, escapePlain]
  simp only [toList_replaceChar, List.flatMap_assoc]
  congr 1
  funext c
  by_cases known : c ∈ marks
  · simp only [marks, List.mem_cons, List.not_mem_nil, or_false] at known
    rcases known with rfl | rfl | rfl | rfl <;> decide
  · rw [written_of_plain known]
    simp only [marks, List.mem_cons, List.not_mem_nil, or_false, not_or] at known
    obtain ⟨ampersand, opening, closing, quote⟩ := known
    simp only [beq_false_of_ne ampersand, beq_false_of_ne opening, beq_false_of_ne closing,
      beq_false_of_ne quote, Bool.false_eq_true, if_false, List.flatMap_cons, List.flatMap_nil,
      List.append_nil]

/-- A text without markup that reads as another text. -/
def Shows (shown text : String) : Prop :=
  Unmarked shown.toList ∧ unescape shown.toList = text.toList

theorem shows_escapePlain (s : String) : Shows (escapePlain s) s := by
  rw [escapePlain_eq_once, Shows, escapeOnce, String.toList_ofList]
  exact ⟨unmarked_flatMap _, unescape_flatMap _⟩

/-- Text that is already a reference is not taken for one. -/
example : escapePlain "&lt;" = "&amp;lt;" := by cbv

end Html

namespace Theme

/-- A page up to the text of its title. -/
def beforeTitle : String :=
  ofLines [
    "<!DOCTYPE html>",
    "<html lang=\"en\">",
    "<head>",
    "  <meta charset=\"utf-8\">",
    "  <meta name=\"viewport\" content=\"width=device-width, initial-scale=1\">"] ++
  "  <title>"

/-- A page from behind the text of its title to the class of its content. -/
def titleToClass (headLinks : List String) : String :=
  "</title>" ++ "\n" ++
  ofLines (("  <link rel=\"stylesheet\" href=\"" ++ SiteFile.stylesheet.name ++ "\">") ::
    headLinks.map ("  " ++ ·) ++ ["</head>", "<body>"]) ++
  "<div class=\""

/-- A page from behind the class of its content. -/
def afterClass (body : String) : String :=
  "\">" ++ "\n" ++ ofLines [Text.trimEnd body, "</div>", "</body>", "</html>"]

theorem ofLines_nil : ofLines [] = "" := rfl

theorem ofLines_cons (line : String) (lines : List String) :
    ofLines (line :: lines) = line ++ "\n" ++ ofLines lines := by
  simp [ofLines]

theorem ofLines_append (lines more : List String) :
    ofLines (lines ++ more) = ofLines lines ++ ofLines more := by
  simp [ofLines]

theorem page_eq (theme : Theme) (body : String) :
    theme.page body =
      beforeTitle ++ Html.escapePlain theme.title ++ titleToClass theme.headLinks ++
        Html.escapePlain theme.rootClass ++ afterClass body := by
  simp only [page, beforeTitle, titleToClass, afterClass, ofLines_nil, ofLines_append,
    ofLines_cons, List.cons_append, List.nil_append, String.append_assoc, String.empty_append]

/-- The parts of a page keep the title between its tags and the class between its quotes. -/
theorem parts_enclose (headLinks : List String) (body : String) :
    "<title>".toList <:+ beforeTitle.toList ∧
    "</title>".toList <+: (titleToClass headLinks).toList ∧
    "<div class=\"".toList <:+ (titleToClass headLinks).toList ∧
    "\">".toList <+: (afterClass body).toList := by
  have indented : "<title>".toList <:+ "  <title>".toList := by decide
  refine ⟨?_, ?_, ?_, ?_⟩
  · rw [beforeTitle, String.toList_append]
    exact indented.trans (List.suffix_append _ _)
  · simp only [titleToClass, String.toList_append, List.append_assoc]
    exact List.prefix_append _ _
  · rw [titleToClass, String.toList_append]
    exact List.suffix_append _ _
  · simp only [afterClass, String.toList_append, List.append_assoc]
    exact List.prefix_append _ _

end Theme

namespace Html

/-- Escaping a text replaces each mark by its reference, as one pass does. What comes of it holds no
markup and is read as the text again. Where a document is refused, such a text stands between the tags
of a preview; and such texts stand for the title and for the class in the page of a theme, of which
the other parts depend on neither of them, so that the first tag behind the title ends the title and
the first quote behind the class ends the class. -/
theorem escapePlain_exact (s : String) :
    (escapePlain s = escapeOnce s ∧ Shows (escapePlain s) s) ∧
    (∀ pipeline refusal, Pipeline.tryRender pipeline s = .error (.refused refusal) →
      ∃ shown, pipeline.render s = .ok ("<pre>" ++ shown ++ "</pre>\n") ∧ Shows shown s) ∧
    ∀ (theme : Theme) (body : String), ∃ title rootClass,
      theme.page body =
        Theme.beforeTitle ++ title ++ Theme.titleToClass theme.headLinks ++ rootClass ++
          Theme.afterClass body ∧
      (Shows title theme.title ∧ "<title>".toList <:+ Theme.beforeTitle.toList ∧
        "</title>".toList <+: (Theme.titleToClass theme.headLinks).toList) ∧
      (Shows rootClass theme.rootClass ∧
        "<div class=\"".toList <:+ (Theme.titleToClass theme.headLinks).toList ∧
        "\">".toList <+: (Theme.afterClass body).toList) := by
  refine ⟨⟨escapePlain_eq_once s, shows_escapePlain s⟩, ?_, ?_⟩
  · intro pipeline refusal refused
    exact ⟨escapePlain s, Pipeline.render_of_refused refused, shows_escapePlain s⟩
  · intro theme body
    obtain ⟨openTitle, closeTitle, openClass, closeClass⟩ :=
      Theme.parts_enclose theme.headLinks body
    exact ⟨escapePlain theme.title, escapePlain theme.rootClass, theme.page_eq body,
      ⟨shows_escapePlain _, openTitle, closeTitle⟩, ⟨shows_escapePlain _, openClass, closeClass⟩⟩

end Html

end PagePress
