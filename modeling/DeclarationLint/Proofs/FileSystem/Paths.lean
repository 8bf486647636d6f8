import DeclarationLint.Proofs.FileSystem.Places

/-!
# Names of paths

The names of a path that is put together with a slash are those of its two parts. The path of a
place has the names of the place, and a path that a place leads through starts with them.
-/
namespace DeclarationLint

namespace Text

theorem pieces_append (separator : Char) (front back : List Char) :
    pieces separator (String.ofList (front ++ separator :: back)) =
      pieces separator (String.ofList front) ++ pieces separator (String.ofList back) := by
  unfold pieces
  rw [String.toList_ofList, String.toList_ofList, String.toList_ofList, ← List.map_append]
  congr 1
  exact List.splitOnP_append_cons front back (beq_self_eq_true separator)

end Text

namespace Path

theorem names_parse_append (front back : List Char) :
    (parse (String.ofList (front ++ '/' :: back))).names =
      (parse (String.ofList front)).names ++ (parse (String.ofList back)).names := by
  unfold parse
  rw [Text.pieces_append, List.filter_append]

end Path

namespace Place

variable {place : Place}

theorem toList_render (place : Place) :
    place.render.toList = '/' :: ("/".intercalate place).toList := by
  rw [render, String.toList_append]
  rfl

theorem names_parse_intercalate (ordinary : ∀ name ∈ place, OrdinaryName name) :
    (Path.parse ("/".intercalate place)).names = place := by
  unfold Path.parse
  by_cases top : place = []
  · subst top
    rfl
  · rw [Text.pieces_intercalate rfl (fun name member => (ordinary name member).slash_notMem) top]
    apply List.filter_eq_self.mpr
    intro name member
    exact decide_eq_true ⟨(ordinary name member).ne_empty, (ordinary name member).ne_dot⟩

/-- An ordinary name is a path with no other names. -/
theorem parse_of_ordinary {name : String} (ordinary : OrdinaryName name) :
    Path.parse name = ⟨"", [name]⟩ := by
  have joined : "/".intercalate [name] = name := by
    apply String.toList_injective
    simp
  have names : (Path.parse name).names = [name] := by
    have parsed : (Path.parse ("/".intercalate [name])).names = [name] :=
      names_parse_intercalate (by simpa using ordinary)
    rwa [joined] at parsed
  have anchor : Path.anchorOf name.toList = "" := by
    have start : name.toList.takeWhile (· = '/') = [] := by
      cases chars : name.toList with
      | nil => rfl
      | cons first rest =>
        have other : first ≠ '/' := by
          rintro rfl
          exact ordinary.slash_notMem (chars ▸ List.mem_cons_self ..)
        rw [List.takeWhile_cons_of_neg (by simpa using other)]
    rw [Path.anchorOf, start]
    rfl
  rw [← names, ← anchor]
  rfl

/-- A path that leads through a place has the names of the place in front. -/
theorem names_parse_below (ordinary : ∀ name ∈ place, OrdinaryName name) {path : String}
    {lower : List Char} (below : path.toList = place.render.toList ++ '/' :: lower) :
    (Path.parse path).names = place ++ (Path.parse (String.ofList lower)).names := by
  have joined : path =
      String.ofList ([] ++ '/' :: (("/".intercalate place).toList ++ '/' :: lower)) := by
    apply String.toList_injective
    rw [below, toList_render, String.toList_ofList]
    rfl
  rw [joined, Path.names_parse_append, Path.names_parse_append, String.ofList_toList,
    names_parse_intercalate ordinary]
  rfl

end Place
end DeclarationLint
