/-!
# Paths

A path is a text whose parts stand between slashes.  Joining a part to a path
puts one slash between them; a part that begins with a slash starts over.
-/

namespace KotlinBuilders

/-- A path with a part joined to it. -/
def joinPath (path part : String) : String :=
  if part.toList.head? = some '/' then part
  else if path.isEmpty ∨ path.toList.getLast? = some '/' then path ++ part
  else path ++ "/" ++ part

/-- A path, last character first, without the slashes at its end and without the
parts there that mean the folder itself. -/
def dropEmptyParts : List Char → List Char
  | '/' :: rest => dropEmptyParts rest
  | '.' :: '/' :: rest => dropEmptyParts rest
  | path => path

/-- The folder that a path's last part is in; empty for the working
directory. -/
def parentPath (path : String) : String :=
  let front := path.toList.reverse.dropWhile (· != '/')
  match dropEmptyParts front with
  | [] => if front.isEmpty then "" else "/"
  | rest => String.ofList rest.reverse

/-- Dropping the empty parts of a path never lengthens it. -/
theorem length_dropEmptyParts_le (path : List Char) :
    (dropEmptyParts path).length ≤ path.length := by
  fun_induction dropEmptyParts path <;> grind

/-- A path of at most one character that has a slash is the root. -/
theorem eq_top_of_slash_mem {path : String} (hmem : '/' ∈ path.toList)
    (hshort : path.length ≤ 1) : path = "/" := by
  rw [← String.length_toList] at hshort
  match htext : path.toList with
  | [] => simp [htext] at hmem
  | [c] =>
    rw [← String.ofList_toList (s := path), htext]
    simp only [htext, List.mem_singleton] at hmem
    rw [← hmem]
  | _ :: _ :: _ => simp [htext] at hshort

/-- The folder that a part is in has a shorter path. -/
theorem length_parentPath_lt {path : String} (hempty : path ≠ "")
    (htop : path ≠ "/") :
    (parentPath path).length < path.length := by
  have hpos : 0 < path.length := by
    rw [← String.length_toList]
    exact List.length_pos_iff.2 fun h => hempty (String.toList_eq_nil_iff.1 h)
  have hfront := List.dropWhile_suffix (· != '/') (l := path.toList.reverse)
  unfold parentPath
  cases front : path.toList.reverse.dropWhile (· != '/') with
  | nil => simpa [dropEmptyParts] using hpos
  | cons c rest =>
    have hc : c = '/' := by
      have := List.head?_dropWhile_not (· != '/') path.toList.reverse
      simpa [front] using this
    subst hc
    rw [front] at hfront
    have hlong : 1 < path.length := by
      refine Nat.lt_of_not_le fun hshort => htop (eq_top_of_slash_mem ?_ hshort)
      exact List.mem_reverse.1 (hfront.subset List.mem_cons_self)
    have hle := hfront.length_le
    rw [List.length_reverse, String.length_toList, List.length_cons] at hle
    have hrest := length_dropEmptyParts_le rest
    simp only [dropEmptyParts]
    split
    · have htopLength : "/".length = 1 := by decide
      simpa [htopLength] using hlong
    · simp only [String.length_ofList, List.length_reverse]
      omega

/-- A path and the paths of the folders around it, the innermost first.  Neither
the empty path nor the top is among them, because both are always there. -/
def pathsAround (path : String) : List String :=
  if _h : path = ""
    ∨ path = "/" then [] else path :: pathsAround (parentPath path)
termination_by path.length
decreasing_by
  obtain ⟨hempty, htop⟩ := not_or.1 _h
  exact length_parentPath_lt hempty htop

end KotlinBuilders
