import DepthRules.Files.Basic

/-!
# Writing a file

Writing at a path sets the bytes of one file, which may be a new one, and changes nothing else
(`rewrites_of_write`): afterwards the bytes are read at every path that leads to the file, and at
every other path the same as before. A path comes to another end only where it leads to the file or
would have to go through it (`Becomes`).
-/

namespace DepthRules.Files

/-- The end of a path is the file at a location, or the place for a new file there. -/
def Target.IsAt (location : Location) : Target → Prop
  | .file found _ => found = location
  | .absent found => found = location
  | _ => False

/-- A path leads to the file at a location, or to the place for a new file there. -/
def LeadsTo (files : Files) (path : String) (location : Location) : Prop :=
  (files.find path).IsAt location

/-- The trees differ at most in the file at a location, which has these bytes in the second. -/
structure Rewrites (before after : Files) (location : Location) (bytes : List UInt8) : Prop where
  workingDirectory_eq : after.workingDirectory = before.workingDirectory
  directories_eq : after.directories = before.directories
  content_eq : after.content? location = some bytes
  content_of_ne : ∀ other, other ≠ location → after.content? other = before.content? other
  read_eq : ∀ path, before.LeadsTo path location → after.read path = .ok bytes
  read_iff : ∀ path, ¬ before.LeadsTo path location →
    ∀ found, after.read path = .ok found ↔ before.read path = .ok found

/-- What becomes of the end of a path when the file at a location gets bytes. -/
inductive Becomes (location : Location) (bytes : List UInt8) : Target → Target → Prop where
  | same {target : Target} (h : ¬ target.IsAt location) : Becomes location bytes target target
  | changed (old : List UInt8) : Becomes location bytes (.file location old) (.file location bytes)
  | created : Becomes location bytes (.absent location) (.file location bytes)
  | blocked : Becomes location bytes .nowhere .underFile

/-- There is a file at the location, or there can be one. -/
def Writable (files : Files) (location : Location) : Prop :=
  files.content? location = none → files.isDirectory location = false

/-- What is found by following the parts of a path from a location that a name leads to. -/
def enter (files : Files) (location : Location) (rest : List (List Char)) : Target :=
  match files.content? location with
  | some bytes => if rest.isEmpty then .file location bytes else .underFile
  | none =>
      if files.isDirectory location then files.follow location rest
      else if rest.isEmpty then .absent location else .nowhere

variable {files : Files} {location : Location} {bytes : List UInt8}

theorem follow_cons (files : Files) (start : Location) (part : List Char)
    (rest : List (List Char)) :
    files.follow start (part :: rest) =
      if part.isEmpty || part == ['.'] then files.follow start rest
      else if part == ['.', '.'] then files.follow start.tail rest
      else if exceeds nameBytes part then .tooLong
      else files.enter (part :: start) rest := by
  rw [follow]
  rfl

/-! ## One file -/

theorem content?_put_self (files : Files) (location : Location) (bytes : List UInt8) :
    (files.put location bytes).content? location = some bytes := by
  simp [put, content?]

theorem content?_put_of_ne {other : Location} (h : other ≠ location) :
    (files.put location bytes).content? other = files.content? other := by
  rw [put, content?, content?, List.find?_cons_of_neg (by simpa using h.symm), List.find?_filter]
  congr 2
  funext entry
  by_cases hentry : entry.1 = other
  · simp [hentry, h]
  · simp [hentry]

theorem isDirectory_put (other : Location) :
    (files.put location bytes).isDirectory other = files.isDirectory other := rfl

/-! ## The end of a path -/

/-- A path that comes to the file gets its bytes, or is blocked by it if it goes on. -/
theorem enter_put_self (h : files.Writable location) (rest : List (List Char)) :
    Becomes location bytes (files.enter location rest)
      ((files.put location bytes).enter location rest) := by
  rw [enter, enter, content?_put_self]
  cases hcontent : files.content? location with
  | some old =>
      dsimp only
      split
      · exact .changed old
      · exact .same id
  | none =>
      -- no directory is there either, so the path ends at the place or has nowhere to go on
      dsimp only
      rw [h hcontent, if_neg Bool.false_ne_true]
      split
      · exact .created
      · exact .blocked

theorem enter_put_of_ne {next : Location} {rest : List (List Char)} (hne : next ≠ location)
    (hrest : Becomes location bytes (files.follow next rest)
      ((files.put location bytes).follow next rest)) :
    Becomes location bytes (files.enter next rest)
      ((files.put location bytes).enter next rest) := by
  rw [enter, enter, content?_put_of_ne hne, isDirectory_put]
  cases files.content? next with
  | some found =>
      dsimp only
      split
      · exact .same hne
      · exact .same id
  | none =>
      dsimp only
      split
      · exact hrest
      · split
        · exact .same hne
        · exact .same id

theorem follow_put (h : files.Writable location) (parts : List (List Char)) (start : Location) :
    Becomes location bytes (files.follow start parts)
      ((files.put location bytes).follow start parts) := by
  induction parts generalizing start with
  | nil => exact .same id
  | cons part rest ih =>
      -- both paths take the same step, and only a name can lead to the location
      rw [follow_cons, follow_cons]
      split
      · exact ih start
      · split
        · exact ih start.tail
        · split
          · exact .same id
          · by_cases hnext : part :: start = location
            · rw [hnext]
              exact enter_put_self h rest
            · exact enter_put_of_ne hnext (ih (part :: start))

theorem find_put (h : files.Writable location) (path : String) :
    Becomes location bytes (files.find path) ((files.put location bytes).find path) := by
  rw [find, find]
  split
  · exact .same id
  · split
    · exact .same id
    · split
      · exact .same id
      · exact follow_put h _ []
      · exact follow_put h _ files.workingDirectory

/-- A path leads only to where a file is or can be. -/
theorem writable_of_follow {parts : List (List Char)} {start : Location}
    (h : (files.follow start parts).IsAt location) : files.Writable location := by
  induction parts generalizing start with
  | nil => exact absurd h id
  | cons part rest ih =>
      rw [follow_cons] at h
      split at h
      · exact ih h
      · split at h
        · exact ih h
        · split at h
          · exact absurd h id
          · rw [enter] at h
            cases hcontent : files.content? (part :: start) with
            | some found =>
                rw [hcontent] at h
                dsimp only at h
                split at h
                · cases h
                  exact fun hnone => by rw [hcontent] at hnone; cases hnone
                · exact absurd h id
            | none =>
                rw [hcontent] at h
                dsimp only at h
                split at h
                · exact ih h
                · rename_i hdirectory
                  split at h
                  · cases h
                    exact fun _ => by simpa using hdirectory
                  · exact absurd h id

theorem LeadsTo.writable {path : String} (h : files.LeadsTo path location) :
    files.Writable location := by
  rw [LeadsTo, find] at h
  split at h
  · exact absurd h id
  · split at h
    · exact absurd h id
    · split at h
      · exact absurd h id
      · exact writable_of_follow h
      · exact writable_of_follow h

/-! ## Reading after writing -/

theorem read_put_of_leadsTo {path : String} (h : files.LeadsTo path location) :
    (files.put location bytes).read path = .ok bytes := by
  have hfind : Becomes location bytes (files.find path) ((files.put location bytes).find path) :=
    find_put h.writable path
  rw [LeadsTo] at h
  rw [read]
  generalize files.find path = target at h hfind
  generalize (files.put location bytes).find path = result at hfind
  cases hfind with
  | same hnot => exact absurd h hnot
  | changed old => rfl
  | created => rfl
  | blocked => exact absurd h id

theorem read_put_iff (hwritable : files.Writable location) {path : String}
    (h : ¬ files.LeadsTo path location) (found : List UInt8) :
    (files.put location bytes).read path = .ok found ↔ files.read path = .ok found := by
  have hfind : Becomes location bytes (files.find path) ((files.put location bytes).find path) :=
    find_put hwritable path
  rw [LeadsTo] at h
  rw [read, read]
  generalize files.find path = target at h hfind
  generalize (files.put location bytes).find path = result at hfind
  cases hfind with
  | same hnot => rfl
  | changed old => exact absurd rfl h
  | created => exact absurd rfl h
  | blocked => exact iff_of_false (fun heq => nomatch heq) fun heq => nomatch heq

theorem rewrites_put {path : String} (h : files.LeadsTo path location) (bytes : List UInt8) :
    Rewrites files (files.put location bytes) location bytes where
  workingDirectory_eq := rfl
  directories_eq := rfl
  content_eq := content?_put_self files location bytes
  content_of_ne _ hne := content?_put_of_ne hne
  read_eq _ hpath := read_put_of_leadsTo hpath
  read_iff _ hpath := read_put_iff h.writable hpath

/-- A path that leads to a file or to the place for one can be written. -/
theorem LeadsTo.write_eq {path : String} (h : files.LeadsTo path location) (bytes : List UInt8) :
    files.write path bytes = .ok (files.put location bytes) := by
  rw [LeadsTo] at h
  rw [write]
  cases hfind : files.find path with
  | file found old => rw [hfind] at h; cases h; rfl
  | absent found => rw [hfind] at h; cases h; rfl
  | directory => rw [hfind] at h; exact absurd h id
  | underFile => rw [hfind] at h; exact absurd h id
  | nowhere => rw [hfind] at h; exact absurd h id
  | tooLong => rw [hfind] at h; exact absurd h id
  | noPath => rw [hfind] at h; exact absurd h id

/-- What is written at a path is the only change. -/
theorem rewrites_of_write {after : Files} {path : String} (h : files.write path bytes = .ok after) :
    ∃ location, files.LeadsTo path location ∧ Rewrites files after location bytes := by
  have hleads : ∃ location, files.LeadsTo path location := by
    rw [write] at h
    cases hfind : files.find path with
    | file location old => exact ⟨location, by rw [LeadsTo, hfind]; rfl⟩
    | absent location => exact ⟨location, by rw [LeadsTo, hfind]; rfl⟩
    | directory => rw [hfind] at h; cases h
    | underFile => rw [hfind] at h; cases h
    | nowhere => rw [hfind] at h; cases h
    | tooLong => rw [hfind] at h; cases h
    | noPath => rw [hfind] at h; cases h
  obtain ⟨location, hleads⟩ := hleads
  cases h.symm.trans (hleads.write_eq bytes)
  exact ⟨location, hleads, rewrites_put hleads bytes⟩

end DepthRules.Files
