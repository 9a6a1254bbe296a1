import Haml.Proofs.CompileOutcome

/-!
# The name of a registered function

A function is registered under the last segment of namespace and name together, in the container
that the other segments lead to. Only their common number is looked at: two are enough. So a name
without segments is refused when the namespace has one segment, and when it has more the last of
these is taken for the name.
-/

namespace Haml

namespace Registration

/-- The segments that lead to a function, its name the last. -/
def Target.segments (place : Target) : List Text := place.root :: (place.inner ++ [place.name])

/-- The last segment of a target is its name. -/
theorem Target.getLast?_segments (place : Target) : place.segments.getLast? = some place.name := by
  rw [segments, ← List.cons_append, List.getLast?_concat]

/-- Two segments, of the namespace and the name together, are enough for a target, and it has all of
them. -/
theorem target_cases (options : Options) (name nameSpace : Text) :
    ((nameSegments (spaceOf options nameSpace) ++ nameSegments name).length < 2 ∧
      target options name nameSpace = .error (.noName name)) ∨
    ∃ place : Target,
      place.segments = nameSegments (spaceOf options nameSpace) ++ nameSegments name ∧
      target options name nameSpace = .ok place := by
  have hsegments : segments (spaceOf options nameSpace) name =
      nameSegments (spaceOf options nameSpace) ++ nameSegments name := segments_eq _ _
  rw [spaceOf] at hsegments
  simp only [target, spaceOf, hsegments]
  rcases nameSegments (if nameSpace.isEmpty then options.nameSpace else nameSpace) ++
    nameSegments name with _ | ⟨root, more⟩
  · exact .inl ⟨by decide, rfl⟩
  · rcases List.eq_nil_or_concat more with rfl | ⟨inner, last, rfl⟩
    · exact .inl ⟨Nat.one_lt_two, rfl⟩
    · rw [List.concat_eq_append]
      refine .inr ⟨⟨root, inner, last⟩, rfl, ?_⟩
      dsimp only
      rw [List.getLast?_concat, List.dropLast_concat]

end Registration

open Registration (nameSegments spaceOf registration innermost Target)

/-- The code of a node is never refused for a name. -/
theorem Tree.code_ne_name (tree : Tree) (options : Options) (i : Nat) (error : Registration.Error) :
    tree.code options i ≠ .error (.name error) := by
  intro hname
  rw [Tree.code] at hname
  split at hname
  · cases hname
  · split at hname
    · obtain ⟨fault, -, hfault⟩ := mapError_eq_error_iff.mp hname
      cases hfault
    · cases hname

/-- The module text ends with the line that registers the function. -/
theorem Registration.moduleText_eq (options : Options) (place : Target) (body : Text) :
    ∃ front, moduleText options place.root place.inner place.name body =
      front ++ registration (innermost place.root place.inner) place.name :=
  ⟨_, rfl⟩

/-- A module is refused for its name, or it is the code of the tree around which the rest is put. -/
theorem Registration.emit_cases (options : Options) (tree : Tree) (name nameSpace : Text) :
    ((nameSegments (spaceOf options nameSpace) ++ nameSegments name).length < 2 ∧
      emit options tree name nameSpace = .error (.name (.noName name))) ∨
    ∃ place : Target,
      place.segments = nameSegments (spaceOf options nameSpace) ++ nameSegments name ∧
      emit options tree name nameSpace = tree.code options 0 >>= fun body =>
        pure (moduleText options place.root place.inner place.name body) := by
  rcases target_cases options name nameSpace with ⟨hshort, htarget⟩ | ⟨place, hplace, htarget⟩
  · refine .inl ⟨hshort, ?_⟩
    rw [emit, htarget]
    rfl
  · refine .inr ⟨place, hplace, ?_⟩
    rw [emit, htarget]
    rfl

/-- Which names are refused, and what a function is registered as, for a namespace with at least one
segment. A module is refused for its name exactly if the name has no segment and the namespace has
only one. In all other cases there is a module exactly if there is code for the tree. It ends by
registering the function in the container that all segments but the last lead to, under the last
segment of the name; but if the name has none, under the last segment of the namespace. -/
theorem emit_registered (options : Options) (tree : Tree) (name nameSpace : Text)
    (hspace : nameSegments (spaceOf options nameSpace) ≠ []) :
    (∀ error, emit options tree name nameSpace = .error (.name error) ↔
      error = .noName name ∧ nameSegments name = [] ∧
        (nameSegments (spaceOf options nameSpace)).length = 1) ∧
    (¬(nameSegments name = [] ∧ (nameSegments (spaceOf options nameSpace)).length = 1) →
      errorOf? (emit options tree name nameSpace) = errorOf? (tree.code options 0)) ∧
    ∀ code, emit options tree name nameSpace = .ok code →
      ∃ (front : Text) (place : Target),
        code = front ++ registration (innermost place.root place.inner) place.name ∧
        place.segments = nameSegments (spaceOf options nameSpace) ++ nameSegments name ∧
        (nameSegments name ≠ [] → (nameSegments name).getLast? = some place.name) ∧
        (nameSegments name = [] →
          (nameSegments (spaceOf options nameSpace)).getLast? = some place.name) := by
  have hlength : (nameSegments (spaceOf options nameSpace) ++ nameSegments name).length < 2 ↔
      nameSegments name = [] ∧ (nameSegments (spaceOf options nameSpace)).length = 1 := by
    have hpos := List.length_pos_iff.mpr hspace
    rw [List.length_append, ← List.length_eq_zero_iff]
    omega
  rw [← hlength]
  rcases Registration.emit_cases options tree name nameSpace with ⟨hshort, hemit⟩ |
    ⟨place, hplace, hemit⟩
  · refine ⟨fun error => ?_, fun hlong => absurd hshort hlong, fun code hcode => ?_⟩
    · rw [hemit]
      constructor
      · intro heq
        exact ⟨(CompileFailure.name.inj (Except.error.inj heq)).symm, hshort⟩
      · rintro ⟨rfl, -⟩
        rfl
    · rw [hemit] at hcode
      cases hcode
  · have hlong : ¬(nameSegments (spaceOf options nameSpace) ++ nameSegments name).length < 2 := by
      rw [← hplace, Target.segments]
      simp
    refine ⟨fun error => ?_, fun _ => ?_, fun code hcode => ?_⟩
    · refine ⟨fun hname => ?_, fun hrefused => absurd hrefused.2 hlong⟩
      rw [hemit] at hname
      cases hbody : tree.code options 0 with
      | ok body =>
        rw [hbody] at hname
        cases hname
      | error failure =>
        rw [hbody] at hname
        exact absurd (hbody.trans hname) (tree.code_ne_name options 0 error)
    · rw [hemit]
      exact errorOf?_bind_pure
    · rw [hemit] at hcode
      obtain ⟨body, -, hmodule⟩ := bind_eq_ok_iff.mp hcode
      obtain ⟨front, hfront⟩ := Registration.moduleText_eq options place body
      have hlast := place.getLast?_segments
      rw [hplace] at hlast
      refine ⟨front, place, (Except.ok.inj hmodule).symm.trans hfront, hplace, ?_, ?_⟩
      · intro hname
        rwa [List.getLast?_append_of_ne_nil _ hname] at hlast
      · intro hname
        rwa [hname, List.append_nil] at hlast

/-- The tree of one element. -/
def paragraph : Tree := (Template.parse "%p".toList).toOption.getD Tree.empty

/-- A name of dots alone is refused in a plain namespace. In a dotted one it is not, and the
function takes the place of the inner container. -/
theorem emit_registered_dots :
    nameSegments "..".toList = [] ∧
    nameSegments (spaceOf {} []) = ["HAML".toList] ∧
    nameSegments (spaceOf {} "App.views".toList) = ["App".toList, "views".toList] ∧
    emit {} paragraph "..".toList [] = .error (.name (.noName "..".toList)) ∧
    ∃ code front, emit {} paragraph "..".toList "App.views".toList = .ok code ∧
      code = front ++ registration "App".toList "views".toList := by
  have hname : nameSegments "..".toList = [] := by decide +kernel
  have hplain : nameSegments (spaceOf {} []) = ["HAML".toList] := by decide +kernel
  have hdotted : nameSegments (spaceOf {} "App.views".toList) =
      ["App".toList, "views".toList] := by decide +kernel
  have hrefused := (emit_registered {} paragraph "..".toList [] (by rw [hplain]; simp)).1
  obtain ⟨-, herror, hcode⟩ :=
    emit_registered {} paragraph "..".toList "App.views".toList (by rw [hdotted]; simp)
  rw [hname, hdotted] at herror hcode
  have hnone : errorOf? (paragraph.code {} 0) = none := by decide +kernel
  obtain ⟨code, hok⟩ := errorOf?_eq_none_iff.mp ((herror (by simp)).trans hnone)
  obtain ⟨front, ⟨root, inner, last⟩, hend, hplace, -, hlast⟩ := hcode code hok
  obtain rfl : "views".toList = last := Option.some.inj (hlast rfl)
  obtain ⟨rfl, hinner⟩ := List.cons.inj hplace
  obtain rfl : inner = [] := List.append_cancel_right hinner
  exact ⟨hname, hplain, hdotted, (hrefused _).mpr ⟨rfl, hname, by rw [hplain]; rfl⟩,
    code, front, hok, hend⟩

end Haml
