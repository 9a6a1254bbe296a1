import Haml.Config
import Haml.Proofs.Fallible
import Mathlib.Data.List.Basic

/-!
# How the reading of a configuration ends

Options of the wrong type are refused, and so is an entry without its two paths. Where a path has
another type than text, or a value has no items to go through, nothing is refused: the reading ends
there as ill-typed. Three predicates say of the data alone which of the three ways it takes, and the
directory of the project has no part in it.
-/

namespace Haml.Config

variable {data item : Data} {root : Path} {items : List Data}

/-- A document that has settings. An empty one has none. -/
def IsMapping (data : Data) : Prop := data = .null ∨ ∃ entries, data = .mapping entries

/-- A value with items to go through. -/
def IsCollection (data : Data) : Prop :=
  (∃ items, data = .list items) ∨ (∃ t, data = .text t) ∨ ∃ entries, data = .mapping entries

/-- An entry that gives both of its paths, whatever their types. -/
def IsComplete (item : Data) : Prop :=
  ∃ entries src dst, item = .mapping entries ∧
    Data.get? entries "src".toList = some src ∧ Data.get? entries "dst".toList = some dst

/-- An entry that gives both of its paths as texts. -/
def IsPair (item : Data) : Prop :=
  ∃ entries src dst, item = .mapping entries ∧
    Data.get? entries "src".toList = some (.text src) ∧
    Data.get? entries "dst".toList = some (.text dst)

/-- The options of a document are accepted. -/
def OptionsRead (data : Data) : Prop :=
  ∃ options, Options.ofData (setting data "options") = .ok options

/-- Nothing is to be written, or every entry is a pair. -/
def PairsRead (data : Data) : Prop :=
  (setting data "write").isPresent = false ∨
    ∃ items, setting data "write" = .list items ∧ ∀ item ∈ items, IsPair item

/-- There is no base, or it is a text. -/
def BaseRead (data : Data) : Prop :=
  (setting data "base").isPresent = false ∨ ∃ t, setting data "base" = .text t

/-- A document that is read as a configuration. -/
structure Accepted (data : Data) : Prop where
  /-- It is a mapping. -/
  isMapping : IsMapping data
  /-- The options are read. -/
  options : OptionsRead data
  /-- The pairs are read. -/
  pairs : PairsRead data
  /-- The base is read. -/
  base : BaseRead data
  /-- What is watched is not given or a collection. -/
  watch : (setting data "watch").isPresent = false ∨ IsCollection (setting data "watch")

/-- A document that is refused, and why. -/
inductive Refused (data : Data) : ConfigError → Prop where
  | notMapping (h : ¬IsMapping data) : Refused data .configNotMapping
  | options {error : ConfigError} (h : Options.ofData (setting data "options") = .error error) :
      Refused data error
  /-- The items of a text are texts, and those of a mapping are its keys. -/
  | noList (options : OptionsRead data) (present : (setting data "write").isPresent = true)
      (items : IsCollection (setting data "write"))
      (noList : ∀ items, setting data "write" ≠ .list items) : Refused data .incompleteEntry
  | incomplete {before after : List Data} {item : Data} (options : OptionsRead data)
      (items : setting data "write" = .list (before ++ item :: after))
      (before : ∀ earlier ∈ before, IsPair earlier) (item : ¬IsComplete item) :
      Refused data .incompleteEntry

/-- A document in which a value is met that has the wrong type but is not refused. -/
inductive IllTyped (data : Data) : Prop where
  | write (options : OptionsRead data) (present : (setting data "write").isPresent = true)
      (items : ¬IsCollection (setting data "write")) : IllTyped data
  | path {before after : List Data} {item : Data} (options : OptionsRead data)
      (items : setting data "write" = .list (before ++ item :: after))
      (before : ∀ earlier ∈ before, IsPair earlier) (complete : IsComplete item)
      (item : ¬IsPair item) : IllTyped data
  | base (options : OptionsRead data) (pairs : PairsRead data)
      (present : (setting data "base").isPresent = true)
      (base : ∀ t, setting data "base" ≠ .text t) : IllTyped data
  | watch (options : OptionsRead data) (pairs : PairsRead data) (base : BaseRead data)
      (present : (setting data "watch").isPresent = true)
      (items : ¬IsCollection (setting data "watch")) : IllTyped data

/-- A list in which all have a property, or cut at the first that does not. -/
theorem forall_or_exists_first (P : Data → Prop) (items : List Data) :
    (∀ item ∈ items, P item) ∨ ∃ before item after, items = before ++ item :: after ∧
      (∀ earlier ∈ before, P earlier) ∧ ¬P item := by
  induction items with
  | nil => exact .inl (List.forall_mem_nil _)
  | cons item items ih =>
    by_cases hitem : P item
    · obtain hall | ⟨before, other, after, rfl, hbefore, hother⟩ := ih
      · exact .inl (List.forall_mem_cons.mpr ⟨hitem, hall⟩)
      · exact .inr ⟨item :: before, other, after, rfl,
          List.forall_mem_cons.mpr ⟨hitem, hbefore⟩, hother⟩
    · exact .inr ⟨[], item, items, rfl, List.forall_mem_nil _, hitem⟩

/-- Every document is accepted, refused or ill-typed. The parts are looked at in the order in which
they are read: options, entries, base, patterns. -/
theorem accepted_or_refused_or_illTyped (data : Data) :
    Accepted data ∨ (∃ error, Refused data error) ∨ IllTyped data := by
  by_cases hmapping : IsMapping data
  swap
  · exact .inr (.inl ⟨_, .notMapping hmapping⟩)
  cases hread : Options.ofData (setting data "options") with
  | error error => exact .inr (.inl ⟨error, .options hread⟩)
  | ok options =>
    have hoptions : OptionsRead data := ⟨options, hread⟩
    have hpairs : PairsRead data ∨ (∃ error, Refused data error) ∨ IllTyped data := by
      cases hpresent : (setting data "write").isPresent with
      | false => exact .inl (.inl hpresent)
      | true =>
        by_cases hitems : IsCollection (setting data "write")
        swap
        · exact .inr (.inr (.write hoptions hpresent hitems))
        by_cases hlist : ∃ items, setting data "write" = .list items
        swap
        · exact .inr (.inl ⟨_, .noList hoptions hpresent hitems (not_exists.mp hlist)⟩)
        obtain ⟨items, hlist⟩ := hlist
        obtain hall | ⟨before, item, after, rfl, hbefore, hitem⟩ :=
          forall_or_exists_first IsPair items
        · exact .inl (.inr ⟨items, hlist, hall⟩)
        · by_cases hcomplete : IsComplete item
          · exact .inr (.inr (.path hoptions hlist hbefore hcomplete hitem))
          · exact .inr (.inl ⟨_, .incomplete hoptions hlist hbefore hcomplete⟩)
    refine hpairs.elim (fun hpairs => ?_) .inr
    have hbase : BaseRead data ∨ IllTyped data := by
      cases hpresent : (setting data "base").isPresent with
      | false => exact .inl (.inl hpresent)
      | true =>
        by_cases htext : ∃ t, setting data "base" = .text t
        · exact .inl (.inr htext)
        · exact .inr (.base hoptions hpairs hpresent (not_exists.mp htext))
    refine hbase.elim (fun hbase => ?_) fun hill => .inr (.inr hill)
    cases hpresent : (setting data "watch").isPresent with
    | false => exact .inl ⟨hmapping, hoptions, hpairs, hbase, .inl hpresent⟩
    | true =>
      by_cases hitems : IsCollection (setting data "watch")
      · exact .inl ⟨hmapping, hoptions, hpairs, hbase, .inr hitems⟩
      · exact .inr (.inr (.watch hoptions hpairs hbase hpresent hitems))

/-- Settings that are no mapping are refused. -/
theorem ofData_of_not_isMapping (h : ¬IsMapping data) (root : Path) :
    ofData data root = .error (.invalid .configNotMapping) := by
  cases data with
  | null => exact absurd (.inl rfl) h
  | mapping entries => exact absurd (.inr ⟨entries, rfl⟩) h
  | _ => rfl

/-- Only a mapping has settings. -/
theorem isMapping_of_setting (key : String) (h : setting data key ≠ .null) : IsMapping data := by
  cases data with
  | null => exact .inl rfl
  | mapping entries => exact .inr ⟨entries, rfl⟩
  | _ => exact absurd rfl h

/-- The parts are read one after the other. -/
theorem ofData_eq (h : IsMapping data) (root : Path) :
    ofData data root =
      (Options.ofData (setting data "options")).mapError .invalid >>= fun options =>
        pairsFrom root (setting data "write") >>= fun write =>
          baseFrom root (setting data "base") >>= fun base =>
            watchPatterns (setting data "watch") >>= fun watch =>
              pure { options, base, write, watch, root } := by
  obtain rfl | ⟨entries, rfl⟩ := h <;> rfl

/-- Only a mapping has a setting that counts as given. -/
theorem isMapping_of_isPresent {key : String} (h : (setting data key).isPresent = true) :
    IsMapping data := by
  refine isMapping_of_setting key fun hnull => ?_
  rw [hnull] at h
  cases h

/-- What does not count as given is iterated as nothing. -/
theorem iterate_of_not_isPresent (h : data.isPresent = false) : iterate data = .ok [] := by
  rw [iterate.eq_def, h]
  rfl

/-- A list is iterated item by item. -/
theorem iterate_list (items : List Data) : iterate (.list items) = .ok items := by
  cases items <;> rfl

/-- What is given and is no collection cannot be iterated. -/
theorem iterate_of_not_isCollection (hpresent : data.isPresent = true) (h : ¬IsCollection data) :
    iterate data = .error .illTyped := by
  rw [iterate.eq_def, hpresent]
  cases data with
  | list items => exact absurd (.inl ⟨items, rfl⟩) h
  | text t => exact absurd (.inr (.inl ⟨t, rfl⟩)) h
  | mapping entries => exact absurd (.inr (.inr ⟨entries, rfl⟩)) h
  | _ => rfl

/-- The first item of a text or a mapping is a text. -/
theorem exists_iterate_eq_text (hpresent : data.isPresent = true) (h : IsCollection data)
    (hlist : ∀ items, data ≠ .list items) :
    ∃ first items, iterate data = .ok (.text first :: items) := by
  obtain ⟨items, rfl⟩ | ⟨t, rfl⟩ | ⟨entries, rfl⟩ := h
  · exact absurd rfl (hlist items)
  · cases t with
    | nil => cases hpresent
    | cons c t => exact ⟨_, _, rfl⟩
  · cases entries with
    | nil => cases hpresent
    | cons entry entries => exact ⟨_, _, rfl⟩

/-- A collection can be iterated, and so can what is not given. -/
theorem exists_iterate_eq_ok (h : data.isPresent = false ∨ IsCollection data) :
    ∃ items, iterate data = .ok items := by
  cases hpresent : data.isPresent with
  | false => exact ⟨_, iterate_of_not_isPresent hpresent⟩
  | true =>
    obtain hno | hitems := h
    · rw [hno] at hpresent
      cases hpresent
    · by_cases hlist : ∃ items, data = .list items
      · obtain ⟨items, rfl⟩ := hlist
        exact ⟨items, iterate_list items⟩
      · obtain ⟨first, items, hread⟩ := exists_iterate_eq_text hpresent hitems (not_exists.mp hlist)
        exact ⟨_, hread⟩

/-- Patterns are gone through as any value is, but for a text that stands for itself. -/
theorem watchPatterns_cases (data : Data) :
    (∃ t, data = .text t ∧ watchPatterns data = .ok [.text t]) ∨
      watchPatterns data = iterate data := by
  rw [watchPatterns.eq_def]
  split
  · exact .inl ⟨_, rfl, rfl⟩
  · exact .inr rfl

/-- An entry with both paths as texts is read. -/
theorem exists_writePair_eq_ok (h : IsPair item) (root : Path) :
    ∃ pair, writePair root item = .ok pair := by
  obtain ⟨entries, src, dst, rfl, hsrc, hdst⟩ := h
  rw [writePair, hsrc, hdst]
  exact ⟨_, rfl⟩

/-- An entry without one of the two paths is refused. -/
theorem writePair_of_not_isComplete (h : ¬IsComplete item) (root : Path) :
    writePair root item = .error (.invalid .incompleteEntry) := by
  rw [writePair.eq_def]
  split
  · rename_i entries
    split
    · rename_i src dst hsrc hdst
      exact absurd ⟨entries, src, dst, rfl, hsrc, hdst⟩ h
    · rfl
  · rfl

/-- An entry with both paths that are not both texts has the wrong type. -/
theorem writePair_of_not_isPair (hcomplete : IsComplete item) (h : ¬IsPair item) (root : Path) :
    writePair root item = .error .illTyped := by
  obtain ⟨entries, src, dst, rfl, hsrc, hdst⟩ := hcomplete
  rw [writePair, hsrc, hdst]
  cases src with
  | text s =>
    cases dst with
    | text d => exact absurd ⟨entries, s, d, rfl, hsrc, hdst⟩ h
    | _ => rfl
  | _ => rfl

/-- Entries that are all pairs are all read. -/
theorem exists_mapM_writePair_eq_ok (h : ∀ item ∈ items, IsPair item) (root : Path) :
    ∃ write, items.mapM (writePair root) = .ok write := by
  induction items with
  | nil => exact ⟨[], rfl⟩
  | cons item items ih =>
    obtain ⟨hitem, hitems⟩ := List.forall_mem_cons.mp h
    obtain ⟨pair, hpair⟩ := exists_writePair_eq_ok hitem root
    obtain ⟨write, hwrite⟩ := ih hitems
    rw [List.mapM_cons, hpair, hwrite]
    exact ⟨pair :: write, rfl⟩

/-- The first entry at fault decides. -/
theorem mapM_writePair_eq_error {before after : List Data} {error : Error}
    (hbefore : ∀ earlier ∈ before, IsPair earlier) (hitem : writePair root item = .error error) :
    (before ++ item :: after).mapM (writePair root) = .error error := by
  induction before with
  | nil =>
    rw [List.nil_append, List.mapM_cons, hitem]
    rfl
  | cons earlier before ih =>
    obtain ⟨hearlier, hmore⟩ := List.forall_mem_cons.mp hbefore
    obtain ⟨pair, hpair⟩ := exists_writePair_eq_ok hearlier root
    rw [List.cons_append, List.mapM_cons, hpair, ih hmore]
    rfl

/-- The pairs are read if what is given for them is a collection of pairs. -/
theorem exists_pairsFrom_eq_ok (h : PairsRead data) (root : Path) :
    ∃ write, pairsFrom root (setting data "write") = .ok write := by
  obtain hno | ⟨items, hlist, hitems⟩ := h
  · rw [pairsFrom, iterate_of_not_isPresent hno]
    exact ⟨[], rfl⟩
  · rw [pairsFrom, hlist, iterate_list]
    exact exists_mapM_writePair_eq_ok hitems root

/-- The base is read if it is a text or not given. -/
theorem exists_baseFrom_eq_ok (h : BaseRead data) (root : Path) :
    ∃ base, baseFrom root (setting data "base") = .ok base := by
  rw [baseFrom]
  split
  · rename_i hpresent
    obtain hno | ⟨t, ht⟩ := h
    · rw [hno] at hpresent
      cases hpresent
    · rw [ht]
      exact ⟨_, rfl⟩
  · exact ⟨none, rfl⟩

/-- Accepted settings are read. -/
theorem ofData_of_accepted (h : Accepted data) (root : Path) :
    ∃ config, ofData data root = .ok config := by
  obtain ⟨options, hoptions⟩ := h.options
  obtain ⟨write, hwrite⟩ := exists_pairsFrom_eq_ok h.pairs root
  obtain ⟨base, hbase⟩ := exists_baseFrom_eq_ok h.base root
  obtain ⟨watch, hwatch⟩ : ∃ watch, watchPatterns (setting data "watch") = .ok watch := by
    obtain ⟨t, -, htext⟩ | hiterate := watchPatterns_cases (setting data "watch")
    · exact ⟨_, htext⟩
    · rw [hiterate]
      exact exists_iterate_eq_ok h.watch
  rw [ofData_eq h.isMapping, hoptions, hwrite, hbase, hwatch]
  exact ⟨_, rfl⟩

/-- After the options, the pairs are read first. -/
theorem ofData_of_pairsFrom_error (hoptions : OptionsRead data) (hmapping : IsMapping data)
    {error : Error} (h : pairsFrom root (setting data "write") = .error error) :
    ofData data root = .error error := by
  obtain ⟨options, hoptions⟩ := hoptions
  rw [ofData_eq hmapping, hoptions, h]
  rfl

/-- Refused settings are refused with the error that is named. -/
theorem ofData_of_refused {error : ConfigError} (h : Refused data error) (root : Path) :
    ofData data root = .error (.invalid error) := by
  cases h with
  | notMapping h => exact ofData_of_not_isMapping h root
  | options h =>
    have hmapping : IsMapping data := by
      refine isMapping_of_setting "options" fun hnull => ?_
      rw [hnull] at h
      cases h
    rw [ofData_eq hmapping, h]
    rfl
  | noList hoptions hpresent hitems hlist =>
    refine ofData_of_pairsFrom_error hoptions (isMapping_of_isPresent hpresent) ?_
    obtain ⟨first, items, hread⟩ := exists_iterate_eq_text hpresent hitems hlist
    have hfirst : writePair root (.text first) = .error (.invalid .incompleteEntry) := rfl
    rw [pairsFrom, hread, ok_bind, List.mapM_cons, hfirst]
    rfl
  | incomplete hoptions hlist hbefore hitem =>
    refine ofData_of_pairsFrom_error hoptions (isMapping_of_setting "write" (by simp [hlist])) ?_
    rw [pairsFrom, hlist, iterate_list]
    exact mapM_writePair_eq_error hbefore (writePair_of_not_isComplete hitem root)

/-- Settings with a value of the wrong type fail with that. -/
theorem ofData_of_illTyped (h : IllTyped data) (root : Path) :
    ofData data root = .error .illTyped := by
  cases h with
  | write hoptions hpresent hitems =>
    refine ofData_of_pairsFrom_error hoptions (isMapping_of_isPresent hpresent) ?_
    rw [pairsFrom, iterate_of_not_isCollection hpresent hitems]
    rfl
  | path hoptions hlist hbefore hcomplete hitem =>
    refine ofData_of_pairsFrom_error hoptions (isMapping_of_setting "write" (by simp [hlist])) ?_
    rw [pairsFrom, hlist, iterate_list]
    exact mapM_writePair_eq_error hbefore (writePair_of_not_isPair hcomplete hitem root)
  | base hoptions hpairs hpresent htext =>
    obtain ⟨options, hoptions⟩ := hoptions
    obtain ⟨write, hwrite⟩ := exists_pairsFrom_eq_ok hpairs root
    have hbase : baseFrom root (setting data "base") = .error .illTyped := by
      rw [baseFrom, if_pos hpresent]
      cases hvalue : setting data "base" with
      | text t => exact absurd hvalue (htext t)
      | _ => rfl
    rw [ofData_eq (isMapping_of_isPresent hpresent), hoptions, hwrite, hbase]
    rfl
  | watch hoptions hpairs hbase hpresent hitems =>
    obtain ⟨options, hoptions⟩ := hoptions
    obtain ⟨write, hwrite⟩ := exists_pairsFrom_eq_ok hpairs root
    obtain ⟨base, hbase⟩ := exists_baseFrom_eq_ok hbase root
    have hwatch : watchPatterns (setting data "watch") = .error .illTyped := by
      obtain ⟨t, htext, -⟩ | hiterate := watchPatterns_cases (setting data "watch")
      · exact absurd (.inr (.inl ⟨t, htext⟩)) hitems
      · rw [hiterate, iterate_of_not_isCollection hpresent hitems]
    rw [ofData_eq (isMapping_of_isPresent hpresent), hoptions, hwrite, hbase, hwatch]
    rfl

/-- How the reading of a configuration ends, for every document and every directory. There is a
configuration exactly for an accepted document, and an error of the configuration exactly for a
refused one. In all other cases a value of the wrong type is met that is not refused: something to
write or to watch that cannot be gone through, a path of an entry that is not a text, or a base that
is not a text. Options never end this way. -/
theorem ofData_outcome (data : Data) (root : Path) :
    ((∃ config, ofData data root = .ok config) ↔ Accepted data) ∧
    (∀ error, ofData data root = .error (.invalid error) ↔ Refused data error) ∧
    (ofData data root = .error .illTyped ↔ IllTyped data) := by
  have hcases := accepted_or_refused_or_illTyped data
  refine ⟨⟨?_, fun h => ofData_of_accepted h root⟩,
    fun error => ⟨fun hread => ?_, fun h => ofData_of_refused h root⟩,
    fun hread => ?_, fun h => ofData_of_illTyped h root⟩
  · rintro ⟨config, hread⟩
    obtain h | ⟨error, h⟩ | h := hcases
    · exact h
    · simp [ofData_of_refused h root] at hread
    · simp [ofData_of_illTyped h root] at hread
  · obtain h | ⟨other, h⟩ | h := hcases
    · obtain ⟨config, hok⟩ := ofData_of_accepted h root
      simp [hok] at hread
    · rw [ofData_of_refused h root] at hread
      obtain rfl : other = error := Error.invalid.inj (Except.error.inj hread)
      exact h
    · simp [ofData_of_illTyped h root] at hread
  · obtain h | ⟨error, h⟩ | h := hcases
    · obtain ⟨config, hok⟩ := ofData_of_accepted h root
      simp [hok] at hread
    · simp [ofData_of_refused h root] at hread
    · exact h

/-- An entry has both paths, and one of them is a number. -/
example (root : Path) : ofData (.mapping [("write".toList, .list [.mapping
    [("src".toList, .int 1), ("dst".toList, .text "b.py".toList)]])]) root = .error .illTyped := by
  rfl

end Haml.Config
