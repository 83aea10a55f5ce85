import Chip8.Text

/-!
# File names

A path is cut at its slashes. What stands behind the last one is the name of a file, and its
extension is what follows the last point in it, unless only points stand before that.
`root_append_extension` says that the name is its root and its extension.
-/

namespace Chip8.FileName

/-- What stands between the names in a path. -/
def slash : Symbol := .char '/'

/-- What stands in front of an extension. -/
def point : Symbol := .char '.'

/-- The part of a path behind the last slash. -/
def base (path : Text) : Text := (path.reverse.takeWhile (· != slash)).reverse

/-- The part of a path before the last slash, without the slash. -/
def directory (path : Text) : Text :=
  ((path.reverse.dropWhile (· != slash)).drop 1).reverse

/-- The name of a path's file up to the last point in it. -/
def stem (path : Text) : Text :=
  (((base path).reverse.dropWhile (· != point)).drop 1).reverse

/-- The extension of a path with its point, or nothing. -/
def extension (path : Text) : Text :=
  if (stem path).all (· == point) then []
  else point :: ((base path).reverse.takeWhile (· != point)).reverse

/-- The name of a path's file in front of its extension. -/
def root (path : Text) : Text :=
  if (stem path).all (· == point) then base path else stem path

theorem takeWhile_append_point {name : Text} (h : (name.dropWhile (· != point)).drop 1 ≠ []) :
    name.takeWhile (· != point) ++ point :: (name.dropWhile (· != point)).drop 1 = name := by
  induction name with
  | nil => simp at h
  | cons c cs ih =>
    by_cases hc : c = point
    · simp [hc]
    · simp_all

theorem root_append_extension (path : Text) : root path ++ extension path = base path := by
  unfold root extension
  split
  · simp
  · rename_i h
    have hne : ((base path).reverse.dropWhile (· != point)).drop 1 ≠ [] := by
      intro hnil
      simp [stem, hnil] at h
    have := congrArg List.reverse (takeWhile_append_point hne)
    simpa [stem] using this

end Chip8.FileName
