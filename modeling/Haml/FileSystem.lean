import Haml.Path
import Haml.Text.Blank
import Haml.Text.Utf8

/-!
# File systems

A file system is a finite map from places to directories and files, with a working directory. A
place is the list of names from the top on; `lookup?` is the view through which every operation is
described. Each place is listed once, whatever is there lies in a directory, and so does the working
directory: a new entry is put only where one can be, so that every operation keeps this.

A path leads to a place by walking through it, one component after the other: a double dot goes
back, and only directories can be walked through. Names and paths have a greatest length, and no
path has a null character in it. A file holds a text, or bytes that cannot be read as one.
-/

namespace Haml

/-- The names that lead from the top of a file system to an entry. -/
abbrev Place := List Text

/-- Bytes that cannot be read as a text. -/
structure RawBytes where
  /-- The bytes. -/
  bytes : List UInt8
  /-- Where they cannot be read, and why. -/
  fault : Utf8.Fault
  /-- They cannot be read for that fault. -/
  undecodable : Utf8.decode bytes = .error fault
deriving DecidableEq, Repr

/-- They are not the bytes of any text. -/
theorem RawBytes.ne_encode (raw : RawBytes) (t : Text) : raw.bytes ≠ Utf8.encode t := by
  intro heq
  have hfault := raw.undecodable
  rw [heq, Utf8.decode_encode] at hfault
  cases hfault

/-- The content of a file. -/
inductive FileContent where
  | text (t : Text)
  | raw (bytes : RawBytes)
deriving DecidableEq, Repr

instance : Coe Text FileContent := ⟨.text⟩

/-- The content that bytes are. -/
def FileContent.ofBytes (bytes : List UInt8) : FileContent :=
  match h : Utf8.decode bytes with
  | .ok t => .text t
  | .error fault => .raw ⟨bytes, fault, h⟩

/-- What a place holds. -/
inductive Entry where
  | directory
  | file (content : FileContent)
deriving DecidableEq, Repr

namespace Entry

/-- What entries say of a place; the top is always a directory. -/
def at? (entries : List (Place × Entry)) (place : Place) : Option Entry :=
  if place.isEmpty then some .directory else entries.lookup place

/-- The entries without those of a place. -/
def without (entries : List (Place × Entry)) (place : Place) : List (Place × Entry) :=
  entries.filter fun entry => entry.1 != place

end Entry

/-- Directories and files, and the directory that relative paths start from. -/
structure FileSystem where
  /-- The working directory. -/
  workPlace : Place
  /-- The entries below the top. -/
  entries : List (Place × Entry)
  /-- Each place is listed once. -/
  distinct : (entries.map (·.1)).Nodup := by decide +kernel
  /-- The top is not listed, and whatever is there lies in a directory. -/
  inside : ∀ entry ∈ entries,
    entry.1 ≠ [] ∧ Entry.at? entries entry.1.dropLast = some .directory := by decide +kernel
  /-- The working directory is there. -/
  work : Entry.at? entries workPlace = some .directory := by decide +kernel
deriving DecidableEq, Repr

/-- Why a file operation fails. -/
inductive FileFault where
  | notFound
  | occupied
  | notDirectory
  | isDirectory
  /-- A name or path beyond the greatest length. -/
  | tooLong
  /-- A null character in a path. -/
  | nullByte
  /-- A file that cannot be read as a text. -/
  | undecodable (fault : Utf8.Fault)
deriving DecidableEq, Repr

/-- The number of a fault and its text. -/
def FileFault.text : FileFault → Text
  | notFound => "[Errno 2] No such file or directory".toList
  | occupied => "[Errno 17] File exists".toList
  | notDirectory => "[Errno 20] Not a directory".toList
  | isDirectory => "[Errno 21] Is a directory".toList
  | tooLong => "[Errno 36] File name too long".toList
  | nullByte => "embedded null byte".toList
  | undecodable fault => fault.message

/-- Whether a fault comes from the file system. A null character is refused before it is asked, and
bytes are read as a text after it has answered. -/
def FileFault.isOfSystem : FileFault → Bool
  | nullByte | undecodable _ => false
  | _ => true

/-- A failed operation and the path it was asked for, as it was written. -/
structure FileError where
  /-- Why it failed. -/
  fault : FileFault
  /-- The path. -/
  path : Text
deriving DecidableEq, Repr

/-- The text of a file error; the file system tells the path. -/
def FileError.message (error : FileError) : Text :=
  if error.fault.isOfSystem then error.fault.text ++ ": ".toList ++ Text.quote error.path
  else error.fault.text

/-- Where a path leads. -/
inductive Found where
  | directory (place : Place)
  | file (place : Place) (content : FileContent)
  /-- To nothing, in a directory that exists. -/
  | missing (place : Place)
deriving DecidableEq, Repr

namespace Entry

/-- A place that is left out holds nothing, every other what it held. -/
theorem lookup_without (place other : Place) (entries : List (Place × Entry)) :
    (without entries place).lookup other =
      if other = place then none else entries.lookup other := by
  induction entries with
  | nil => simp [without]
  | cons entry rest ih =>
    obtain ⟨here, held⟩ := entry
    rw [without] at ih ⊢
    by_cases h : here = place
    · subst h
      simp only [List.filter_cons, bne_self_eq_false, Bool.false_eq_true, ↓reduceIte, ih,
        List.lookup_cons]
      by_cases ho : other = here
      · simp [ho]
      · have hb : (other == here) = false := by simpa using ho
        simp [ho, hb]
    · simp only [List.filter_cons, bne_iff_ne, ne_eq, h, not_false_eq_true, ↓reduceIte,
        List.lookup_cons, ih]
      by_cases ho : other = here
      · subst ho; simp [h]
      · have hb : (other == here) = false := by simpa using ho
        simp [hb]

/-- The same for what the entries say, if the place is not the top. -/
theorem at?_without {place : Place} (h : place ≠ []) (entries : List (Place × Entry))
    (other : Place) :
    at? (without entries place) other = if other = place then none else at? entries other := by
  by_cases hnil : other = []
  · subst hnil
    rw [if_neg h.symm]
    rfl
  · have hempty : other.isEmpty = false := by simpa using hnil
    rw [at?, hempty, at?, hempty]
    exact lookup_without place other entries

/-- With a new entry before the others, its place holds it, and every other what it held. -/
theorem at?_cons_without {place : Place} (h : place ≠ []) (entry : Entry)
    (entries : List (Place × Entry)) (other : Place) :
    at? ((place, entry) :: without entries place) other =
      if other = place then some entry else at? entries other := by
  by_cases hp : other = place
  · subst hp
    simp [at?, h]
  · have hb : (other == place) = false := by simpa using hp
    simp [at?, List.lookup_cons, hb, hp, lookup_without]

end Entry

namespace FileSystem

/-- What a place holds; the top is always a directory. -/
def lookup? (files : FileSystem) (place : Place) : Option Entry := Entry.at? files.entries place

/-- The top of every file system is a directory. -/
theorem ne_nil_of_lookup? {files : FileSystem} {place : Place}
    (h : files.lookup? place ≠ some .directory) : place ≠ [] := by
  rintro rfl
  exact h rfl

/-- Where no directory is, the working directory is not either. -/
theorem workPlace_ne {files : FileSystem} {place : Place}
    (h : files.lookup? place ≠ some .directory) : files.workPlace ≠ place := by
  rintro rfl
  exact h files.work

/-- Each place is listed once when one is left out. -/
theorem nodup_without (files : FileSystem) (place : Place) :
    ((Entry.without files.entries place).map (·.1)).Nodup :=
  files.distinct.sublist (List.filter_sublist.map _)

/-- The entries that are kept when the entry of a place that is no directory is left out do not lie
in it. -/
theorem inside_of_mem_without {files : FileSystem} {place : Place}
    (h : files.lookup? place ≠ some .directory) {entry : Place × Entry}
    (hentry : entry ∈ Entry.without files.entries place) :
    entry.1 ≠ [] ∧ entry.1.dropLast ≠ place ∧
      files.lookup? entry.1.dropLast = some .directory := by
  obtain ⟨hnil, hdirectory⟩ := files.inside entry (List.mem_filter.mp hentry).1
  refine ⟨hnil, ?_, hdirectory⟩
  rintro rfl
  exact h hdirectory

/-- The file system without the file at a place. -/
def erase (files : FileSystem) (place : Place) : FileSystem :=
  if h : files.lookup? place ≠ some .directory then
    { workPlace := files.workPlace
      entries := Entry.without files.entries place
      distinct := files.nodup_without place
      inside := fun entry hentry => by
        obtain ⟨hnil, hne, hdirectory⟩ := inside_of_mem_without h hentry
        rw [Entry.at?_without (ne_nil_of_lookup? h), if_neg hne]
        exact ⟨hnil, hdirectory⟩
      work := by
        rw [Entry.at?_without (ne_nil_of_lookup? h), if_neg (workPlace_ne h)]
        exact files.work }
  else files

/-- Whether a place can take an entry: it lies in a directory and is none itself. -/
def Accepts (files : FileSystem) (place : Place) : Prop :=
  files.lookup? place ≠ some .directory ∧ files.lookup? place.dropLast = some .directory

instance (files : FileSystem) (place : Place) : Decidable (files.Accepts place) :=
  inferInstanceAs (Decidable (_ ∧ _))

/-- The file system with a new entry at a place that can take it. -/
def put (files : FileSystem) (place : Place) (entry : Entry) : FileSystem :=
  if h : files.Accepts place then
    have hne : place ≠ [] := ne_nil_of_lookup? h.1
    { workPlace := files.workPlace
      entries := (place, entry) :: Entry.without files.entries place
      distinct := by
        refine List.nodup_cons.mpr ⟨fun hmem => ?_, files.nodup_without place⟩
        obtain ⟨entry, hentry, heq⟩ := List.mem_map.mp hmem
        simpa [heq] using (List.mem_filter.mp hentry).2
      inside := fun entry hentry => by
        rw [Entry.at?_cons_without hne]
        rcases List.mem_cons.mp hentry with rfl | hentry
        · have hlength : place.dropLast ≠ place := fun heq => by
            have := congrArg List.length heq
            have := List.length_pos_iff.mpr hne
            rw [List.length_dropLast] at *
            omega
          rw [if_neg hlength]
          exact ⟨hne, h.2⟩
        · obtain ⟨hnil, hother, hdirectory⟩ := inside_of_mem_without h.1 hentry
          rw [if_neg hother]
          exact ⟨hnil, hdirectory⟩
      work := by
        rw [Entry.at?_cons_without hne, if_neg (workPlace_ne h.1)]
        exact files.work }
  else files

/-- A file system with nothing below the top. -/
def bare : FileSystem := { workPlace := [], entries := [] }

/-- The file system with several new entries, each where it can be put. -/
def putAll (files : FileSystem) (entries : List (Place × Entry)) : FileSystem :=
  entries.foldl (fun files entry => files.put entry.1 entry.2) files

/-- The file system with another working directory, if it is there. -/
def enter (files : FileSystem) (place : Place) : FileSystem :=
  if h : files.lookup? place = some .directory then { files with workPlace := place, work := h }
  else files

/-- Whatever is there lies in a directory. -/
theorem lookup?_dropLast {files : FileSystem} {place : Place} {entry : Entry}
    (h : files.lookup? place = some entry) : files.lookup? place.dropLast = some .directory := by
  rw [lookup?, Entry.at?] at h
  split at h
  · rename_i hnil
    rw [List.isEmpty_iff.mp hnil]
    rfl
  · obtain ⟨before, after, hsplit, -⟩ := List.lookup_eq_some_iff.mp h
    exact (files.inside (place, entry) (by simp [hsplit])).2

/-- After `put` the place holds the new entry, every other what it held. -/
theorem lookup?_put {files : FileSystem} {place : Place} (h : files.Accepts place) (entry : Entry)
    (other : Place) :
    (files.put place entry).lookup? other =
      if other = place then some entry else files.lookup? other := by
  rw [put, dif_pos h]
  exact Entry.at?_cons_without (ne_nil_of_lookup? h.1) entry files.entries other

/-- After `erase` the place holds nothing, every other what it held. -/
theorem lookup?_erase {files : FileSystem} {place : Place}
    (h : files.lookup? place ≠ some .directory) (other : Place) :
    (files.erase place).lookup? other = if other = place then none else files.lookup? other := by
  rw [erase, dif_pos h]
  exact Entry.at?_without (ne_nil_of_lookup? h) files.entries other

/-- The number of bytes that a text takes in UTF-8. -/
def byteCount (t : Text) : Nat := t.foldl (fun count c => count + c.utf8Size) 0

/-- The greatest number of bytes in a name. -/
def maxNameBytes : Nat := 255

/-- The greatest number of bytes in a written path. -/
def maxPathBytes : Nat := 4095

/-- The place that one component leads to: a double dot takes the last name back, and a single dot
stays. -/
def advance (place : Place) (part : Text) : Place :=
  if part == "..".toList then place.dropLast
  else if part == ['.'] then place
  else place ++ [part]

/-- Walks on from a directory. -/
def walk (files : FileSystem) (place : Place) : List Text → Except FileFault Found
  | [] => .ok (.directory place)
  | part :: rest =>
    let next := advance place part
    if maxNameBytes < byteCount part then .error .tooLong else
    match files.lookup? next with
    | some .directory => walk files next rest
    | some (.file content) =>
      if rest.isEmpty then .ok (.file next content) else .error .notDirectory
    | none => if rest.isEmpty then .ok (.missing next) else .error .notFound

/-- The place that a path starts from. -/
def start (files : FileSystem) (path : Path) : Place :=
  if path.anchor == .relative then files.workPlace else []

/-- Why a written path is refused whatever the file system holds. -/
def refusal? (name : Text) : Option FileFault :=
  if name.contains '\x00' then some .nullByte
  else if maxPathBytes < byteCount name then some .tooLong
  else none

/-- Where a path leads. -/
def find (files : FileSystem) (path : Path) : Except FileFault Found :=
  match refusal? path.text with
  | some fault => .error fault
  | none => files.walk (files.start path) path.parts

/-- Whether a path leads to a directory. -/
def isDirectory (files : FileSystem) (path : Path) : Bool :=
  match files.find path with
  | .ok (.directory _) => true
  | _ => false

/-- The place that a path names, each double dot taking back the component before it. -/
def resolve (files : FileSystem) (path : Path) : Place :=
  path.parts.foldl advance (files.start path)

/-- The written form of a place. -/
def placeText (place : Place) : Text := '/' :: List.intercalate ['/'] place

/-- The names in a directory. -/
def namesIn (files : FileSystem) (path : Path) : List Text :=
  match files.find path with
  | .ok (.directory place) =>
    files.entries.filterMap fun entry =>
      match place.isPrefixOf? entry.1 with
      | some [name] => some name
      | _ => none
  | _ => []

/-- A directory and all directories below it. -/
def directoriesFrom (files : FileSystem) (path : Path) : List Path :=
  match files.find path with
  | .ok (.directory place) =>
    path :: files.entries.filterMap fun entry =>
      match entry.2, place.isPrefixOf? entry.1 with
      | .directory, some (name :: names) => some ((name :: names).foldl Path.child path)
      | _, _ => none
  | _ => []

/-- The text of the file at a path, its line ends in one form. -/
def read (files : FileSystem) (path : Path) : Except FileError Text :=
  match files.find path with
  | .ok (.file _ (.text t)) => .ok (Text.unifyLineEnds t)
  | .ok (.file _ (.raw bytes)) => .error ⟨.undecodable bytes.fault, path.text⟩
  | .ok (.directory _) => .error ⟨.isDirectory, path.text⟩
  | .ok (.missing _) => .error ⟨.notFound, path.text⟩
  | .error fault => .error ⟨fault, path.text⟩

/-- The file system with a content written where a path leads. -/
def store (files : FileSystem) (path : Path) (content : FileContent) :
    Except FileFault FileSystem :=
  match files.find path with
  | .ok (.file place _) | .ok (.missing place) => .ok (files.put place (.file content))
  | .ok (.directory _) => .error .isDirectory
  | .error fault => .error fault

/-- Writes the file at a path. -/
def write (files : FileSystem) (path : Path) (content : FileContent) :
    Except FileError FileSystem :=
  (files.store path content).mapError fun fault => ⟨fault, path.text⟩

/-- Whether a written path can name a directory only. -/
def endsInSlash (name : Text) : Bool := name.getLast? == some '/'

/-- The components of a written path, single dots among them. -/
def components (name : Text) : List Text :=
  (List.splitOn '/' name).filter fun part => !part.isEmpty

/-- Where a written path leads. A slash at its end asks for a directory, whether there is one or
not. -/
def findNamed (files : FileSystem) (name : Text) : Except FileFault Found :=
  match refusal? name with
  | some fault => .error fault
  | none =>
    let parts := components name
    let start := files.start (Path.ofText name)
    if endsInSlash name then
      match files.walk start parts.dropLast with
      | .ok (.directory place) => .ok (.directory (parts.getLast?.elim place (advance place)))
      | .ok (.file _ _) => .error .notDirectory
      | .ok (.missing _) => .error .notFound
      | .error fault => .error fault
    else files.walk start parts

/-- Writes the file that a text names. -/
def writeNamed (files : FileSystem) (name content : Text) : Except FileError FileSystem :=
  match files.findNamed name with
  | .ok (.file place _) | .ok (.missing place) => .ok (files.put place (.file content))
  | .ok (.directory _) => .error ⟨.isDirectory, name⟩
  | .error fault => .error ⟨fault, name⟩

/-- Makes one directory in a directory that exists. -/
def makeDirectory (files : FileSystem) (path : Path) : Except FileFault FileSystem :=
  match files.find path with
  | .ok (.missing place) => .ok (files.put place .directory)
  | .ok _ => .error .occupied
  | .error fault => .error fault

/-- What an operation of several steps leaves, and the error that stopped it. -/
structure Change where
  /-- The file system after the steps that were done. -/
  files : FileSystem
  /-- Why it stopped early. -/
  error : Option FileError
deriving DecidableEq, Repr

/-- Makes one directory unless it is there. -/
def ensureDirectory (files : FileSystem) (path : Path) : Change :=
  match files.makeDirectory path with
  | .ok files => ⟨files, none⟩
  | .error fault =>
    if fault != .notFound && files.isDirectory path then ⟨files, none⟩
    else ⟨files, some ⟨fault, path.text⟩⟩

/-- Makes a directory with all directories above it that are missing. -/
def ensureDirectories (files : FileSystem) (path : Path) : Change :=
  let change := files.ensureDirectory path
  match change.error with
  | some ⟨.notFound, _⟩ =>
    if path.parts.isEmpty then change
    else
      let above := files.ensureDirectories path.parent
      match above.error with
      | some _ => above
      | none => above.files.ensureDirectory path
  | _ => change
termination_by path.parts.length
decreasing_by
  simp_all only [Path.parent, List.length_dropLast, List.isEmpty_iff]
  have := List.length_pos_iff.mpr ‹_›
  omega

/-- Writes the file at a path in a directory that is made if it is missing. -/
def deliver (files : FileSystem) (path : Path) (content : FileContent) : Change :=
  let change := files.ensureDirectories path.parent
  match change.error with
  | some _ => change
  | none =>
    match change.files.write path content with
    | .ok files => ⟨files, none⟩
    | .error error => ⟨change.files, some error⟩

/-- Removes the file at a path. -/
def remove (files : FileSystem) (path : Path) : FileSystem :=
  match files.find path with
  | .ok (.file place _) => files.erase place
  | _ => files

end FileSystem

/-- A change of a file from outside: its new content, or none if it is removed. -/
structure Edit where
  /-- The file. -/
  path : Path
  /-- Its content afterwards. -/
  content : Option FileContent
deriving DecidableEq, Repr

/-- The file system after an edit. -/
def FileSystem.apply (files : FileSystem) (edit : Edit) : FileSystem :=
  match edit.content with
  | some content => (files.deliver edit.path content).files
  | none => files.remove edit.path

/-- The file system after several edits. -/
def FileSystem.applyAll (files : FileSystem) (edits : List Edit) : FileSystem :=
  edits.foldl FileSystem.apply files

end Haml
