import PagePress.Theme.Classic
import PagePress.Theme.Default
import PagePress.Theme.Modern

/-!
# Registries of themes

A registry holds the themes that a site can be built with. Their identifiers differ, and one of the
themes stands in for those that are not there; both are checked when the registry is made, so that
no lookup has to think of them.
-/
namespace PagePress

inductive ThemeError where
  | unknown (id : String)
  | duplicate (id : String)
  deriving DecidableEq, Repr

def ThemeError.message : ThemeError → String
  | unknown id => "Unknown theme '" ++ id ++ "'"
  | duplicate id => "Theme '" ++ id ++ "' is registered more than once"

/-- Themes in the order of their registration, and the one that stands in for unknown ones. -/
structure ThemeRegistry where
  themes : List Theme
  fallback : Theme
  ids_nodup : (themes.map Theme.id).Nodup
  fallback_mem : fallback ∈ themes

namespace ThemeRegistry

/-- The first identifier that is among those before it, or among `seen`. -/
def firstRepeat? (seen : List String) : List String → Option String
  | [] => none
  | id :: rest => if id ∈ seen then some id else firstRepeat? (id :: seen) rest

theorem nodup_of_firstRepeat? {seen ids : List String} (h : firstRepeat? seen ids = none) :
    ids.Nodup ∧ ∀ id ∈ ids, id ∉ seen := by
  induction ids generalizing seen with
  | nil => simp
  | cons id rest ih =>
    by_cases hid : id ∈ seen
    · simp [firstRepeat?, hid] at h
    · simp only [firstRepeat?, hid, if_false] at h
      obtain ⟨hnodup, hfresh⟩ := ih h
      refine ⟨List.nodup_cons.2 ⟨fun hmem => hfresh id hmem (by simp), hnodup⟩, ?_⟩
      intro other hother
      rcases List.mem_cons.1 hother with rfl | hrest
      · exact hid
      · exact fun hseen => hfresh other hrest (by simp [hseen])

/-- A registry of the given themes. A repeated identifier is refused first, then a fallback that is
not among them. -/
def ofThemes (themes : List Theme) (fallbackId : String) : Except ThemeError ThemeRegistry :=
  match repeated : firstRepeat? [] (themes.map Theme.id) with
  | some id => .error (.duplicate id)
  | none =>
    match found : themes.find? (·.id == fallbackId) with
    | none => .error (.unknown fallbackId)
    | some theme =>
      .ok ⟨themes, theme, (nodup_of_firstRepeat? repeated).1, List.mem_of_find?_eq_some found⟩

/-- The themes that are always there. -/
def builtin : ThemeRegistry where
  themes := [Theme.Classic.theme, Theme.Default.theme, Theme.Modern.theme]
  fallback := Theme.Default.theme
  ids_nodup := by decide
  fallback_mem := by simp

/-- The theme with an identifier. -/
def resolve (registry : ThemeRegistry) (id : String) : Except ThemeError Theme :=
  match registry.themes.find? (·.id == id) with
  | some theme => .ok theme
  | none => .error (.unknown id)

/-- The theme with an identifier, or else the fallback. -/
def resolveOrFallback (registry : ThemeRegistry) (id : String) : Theme :=
  match registry.resolve id with
  | .ok theme => theme
  | .error _ => registry.fallback

/-- The identifiers in the order of registration. -/
def ids (registry : ThemeRegistry) : List String := registry.themes.map Theme.id

end ThemeRegistry

end PagePress
