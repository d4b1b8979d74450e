import IconForge.Code.SourceFile
import IconForge.Proofs.Text.Separated

/-!
# Where paths lead

A path leads to a location: the root or the current directory, and the parts below it. Pushing a
name on a path descends by one entry, so that distinct packages whose segments are names have
distinct directories below any target.
-/

namespace IconForge
namespace FilePath

/-- Where a path leads. Paths that differ in empty parts only lead to the same location. -/
structure Location where
  isAbsolute : Bool
  parts : List String
  deriving DecidableEq

def Location.entry (directory : Location) (name : String) : Location :=
  ⟨directory.isAbsolute, directory.parts ++ [name]⟩

def location (path : String) : Location := ⟨path.toList.head? = some '/', parts path⟩

def IsEntryName (name : String) : Prop := name ≠ "" ∧ name ≠ "." ∧ '/' ∉ name.toList

theorem Location.entry_inj {first second : Location} {name other : String} :
    first.entry name = second.entry other ↔ first = second ∧ name = other := by
  obtain ⟨absolute, parts⟩ := first
  obtain ⟨absolute', parts'⟩ := second
  simp only [entry, mk.injEq, List.append_singleton_inj]
  tauto

/-! ### Parts of a path -/

theorem parts_eq_singleton {name : String} (h : IsEntryName name) : parts name = [name] := by
  obtain ⟨hempty, hdot, hslash⟩ := h
  have hwords : Text.words (· = '/') name.toList = [name.toList] := by
    refine Text.words_eq_singleton (fun c hc => ?_) (by simpa using hempty)
    exact decide_eq_false fun hslash' => hslash (hslash' ▸ hc)
  simp [parts, hwords, hdot]

theorem parts_append_slash (path entry : String) :
    parts (path ++ "/" ++ entry) = parts path ++ parts entry := by
  have hlist : (path ++ "/" ++ entry).toList = path.toList ++ '/' :: entry.toList := by
    simp [String.toList_append]
  simp [parts, hlist, Text.words_append_cons]

theorem parts_push (path : String) {entry : String} (h : entry.toList.head? ≠ some '/') :
    parts (push path entry) = parts path ++ parts entry := by
  unfold push
  split
  · next hreplaced =>
    obtain rfl : path = "" := hreplaced.resolve_left h
    rfl
  split
  · next hslash =>
    obtain ⟨before, hbefore⟩ := List.getLast?_eq_some_iff.mp hslash
    obtain rfl : path = String.ofList before ++ "/" ++ "" := by
      rw [← String.toList_inj, hbefore]
      simp [String.toList_append]
    have hassoc : String.ofList before ++ "/" ++ "" ++ entry =
        String.ofList before ++ "/" ++ entry := by
      simp
    rw [hassoc, parts_append_slash, parts_append_slash]
    simp [parts, Text.words, Text.fields]
  · exact parts_append_slash path entry

/-! ### Locations of pushed paths -/

@[simp] theorem push_empty (entry : String) : push "" entry = entry := if_pos (.inr rfl)

theorem push_eq_of_absolute (path : String) {entry : String} (h : entry.toList.head? = some '/') :
    push path entry = entry := if_pos (.inl h)

theorem head?_toList_push (path : String) {entry : String} (hpath : path ≠ "")
    (h : entry.toList.head? ≠ some '/') :
    (push path entry).toList.head? = path.toList.head? := by
  have hne : path.toList ≠ [] := by simpa using hpath
  unfold push
  split
  · next hreplaced => exact absurd hreplaced (not_or_intro h hpath)
  split
  · rw [String.toList_append, List.head?_append_of_ne_nil _ hne]
  · rw [String.append_assoc, String.toList_append, List.head?_append_of_ne_nil _ hne]

theorem location_push (path : String) {entry : String} (h : entry.toList.head? ≠ some '/') :
    location (push path entry) = ⟨(location path).isAbsolute, parts path ++ parts entry⟩ := by
  by_cases hpath : path = ""
  · subst hpath
    simp [location, h, parts, Text.words, Text.fields]
  · simp only [location]
    rw [head?_toList_push path hpath h, parts_push path h]

theorem IsEntryName.head?_ne {name : String} (h : IsEntryName name) :
    name.toList.head? ≠ some '/' :=
  fun hhead => h.2.2 (List.mem_of_head? hhead)

theorem location_push_entry (path : String) {name : String} (h : IsEntryName name) :
    location (push path name) = (location path).entry name := by
  rw [location_push path h.head?_ne, parts_eq_singleton h]
  rfl

/-- An entry of a path is an entry of where the path leads below any target. -/
theorem location_push_push (target path : String) {name : String} (h : IsEntryName name) :
    location (push target (push path name)) = (location (push target path)).entry name := by
  by_cases habsolute : path.toList.head? = some '/'
  · have hne : path ≠ "" := by
      rintro rfl
      cases habsolute
    have hpush : (push path name).toList.head? = some '/' :=
      (head?_toList_push path hne h.head?_ne).trans habsolute
    rw [push_eq_of_absolute target hpush, push_eq_of_absolute target habsolute,
      location_push_entry path h]
  · have hpush : (push path name).toList.head? ≠ some '/' := by
      by_cases hpath : path = ""
      · subst hpath
        rw [push_empty]
        exact h.head?_ne
      · rwa [head?_toList_push path hpath h.head?_ne]
    rw [location_push target hpush, location_push target habsolute, parts_push path h.head?_ne,
      parts_eq_singleton h, ← List.append_assoc]
    rfl

theorem location_push_foldl (target path : String) {names : List String}
    (h : ∀ name ∈ names, IsEntryName name) :
    location (push target (names.foldl push path)) =
      ⟨(location (push target path)).isAbsolute, (location (push target path)).parts ++ names⟩ := by
  induction names generalizing path with
  | nil => simp
  | cons name others ih =>
    obtain ⟨hname, hothers⟩ := List.forall_mem_cons.mp h
    rw [List.foldl_cons, ih (push path name) hothers, location_push_push target path hname]
    simp [Location.entry]

end FilePath

/-! ### Directories of packages -/

namespace SourceFile

/-- A package whose segments are names of entries. -/
structure IsPlainPackage (package : String) : Prop where
  segments_ne_empty : [] ∉ Text.fields (· = '.') package.toList
  no_slash : '/' ∉ package.toList

instance (package : String) : Decidable (IsPlainPackage package) :=
  decidable_of_iff
    ([] ∉ Text.fields (· = '.') package.toList ∧ '/' ∉ package.toList)
    ⟨fun h => ⟨h.1, h.2⟩, fun h => ⟨h.segments_ne_empty, h.no_slash⟩⟩

variable {package other : String}

theorem IsPlainPackage.words_eq (h : IsPlainPackage package) :
    Text.words (· = '.') package.toList = Text.fields (· = '.') package.toList := by
  refine List.filter_eq_self.mpr fun segment hsegment => ?_
  simpa using ne_of_mem_of_not_mem hsegment h.segments_ne_empty

/-- A segment of a package is the name of an entry, unless it is empty or has a slash. -/
theorem isEntryName_of_mem_fields {segment : List Char}
    (hsegment : segment ∈ Text.fields (· = '.') package.toList) (hne : segment ≠ [])
    (hslash : '/' ∉ segment) : FilePath.IsEntryName (String.ofList segment) := by
  refine ⟨?_, ?_, ?_⟩
  · simpa [← String.toList_inj] using hne
  · intro hdot
    have hmem : '.' ∈ segment := by
      rw [← String.toList_inj, String.toList_ofList] at hdot
      rw [hdot]
      decide
    simpa using (Text.of_mem_fields hsegment '.' hmem).2
  · rwa [String.toList_ofList]

theorem IsPlainPackage.isEntryName (h : IsPlainPackage package) {segment : List Char}
    (hsegment : segment ∈ Text.fields (· = '.') package.toList) :
    FilePath.IsEntryName (String.ofList segment) := by
  refine isEntryName_of_mem_fields hsegment ?_ ?_
  · exact ne_of_mem_of_not_mem hsegment h.segments_ne_empty
  · intro hslash
    exact h.no_slash (Text.of_mem_fields hsegment '/' hslash).1

theorem IsPlainPackage.eq_of_location_eq (target : String) (h : IsPlainPackage package)
    (hother : IsPlainPackage other)
    (heq : FilePath.location (FilePath.push target (packageDirectory package)) =
      FilePath.location (FilePath.push target (packageDirectory other))) :
    package = other := by
  have hlocation {package : String} (h : IsPlainPackage package) :
      FilePath.location (FilePath.push target (packageDirectory package)) =
        ⟨(FilePath.location (FilePath.push target "")).isAbsolute,
          (FilePath.location (FilePath.push target "")).parts ++
            (Text.fields (· = '.') package.toList).map String.ofList⟩ := by
    rw [packageDirectory, h.words_eq]
    refine FilePath.location_push_foldl target "" fun name hname => ?_
    obtain ⟨segment, hsegment, rfl⟩ := List.mem_map.mp hname
    exact h.isEntryName hsegment
  rw [hlocation h, hlocation hother, FilePath.Location.mk.injEq, List.append_cancel_left_eq] at heq
  have hfields := List.map_injective_iff.mpr (fun _ _ => String.ofList_injective) heq.2
  exact String.toList_injective (Text.fields_injective hfields)

/-! ### Files in their directories -/

theorem isEntryName_of_no_slash {name : String} (h : '/' ∉ name.toList) :
    FilePath.IsEntryName (name ++ ".kt") := by
  have hlist : (name ++ ".kt").toList = name.toList ++ ['.', 'k', 't'] := String.toList_append
  refine ⟨?_, ?_, ?_⟩
  · rw [ne_eq, ← String.toList_inj, hlist]
    simp
  · intro hdot
    have hlength := congrArg (fun text : String => text.toList.length) hdot
    simp [hlist] at hlength
  · rw [hlist, List.mem_append, not_or]
    exact ⟨h, by decide⟩

theorem location_path (target : String) {file : SourceFile} (h : '/' ∉ file.fileName.toList) :
    FilePath.location (FilePath.push target file.path) =
      (FilePath.location (FilePath.push target (packageDirectory file.package))).entry
        (file.fileName ++ ".kt") :=
  FilePath.location_push_push target _ (isEntryName_of_no_slash h)

end SourceFile
end IconForge
