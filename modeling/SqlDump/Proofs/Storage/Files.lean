import SqlDump.Proofs.Results
import SqlDump.Storage.Files

/-!
# Files behind a write

Writing a file makes directories of the places around it and takes none away, so the path
that was opened still leads to the file, which now holds what was written. Of a text in
chunks that are the chunks in front of the first one with a lone surrogate.

Main statements: `write_eq` for what a write does, `read_put` for reading it back, and
`writeChunks_fst` and `writeChunks_snd_eq_none_iff` for the chunks of a text.
-/

namespace SqlDump.Files

variable {files : Files} {location : Location}

/-- The place of the file that a path opens for writing. -/
def target (files : Files) (path : Text) : Except FileError Location :=
  match files.find path with
  | .error fault => .error { fault, path }
  | .ok location =>
      if namesDirectory path then .error { fault := .isDirectory, path } else .ok location

/-- Whether a file can be written depends on its path and not on what is to be written. -/
theorem write_eq (files : Files) (path : Text) (octets : Octets) :
    files.write path octets = (files.target path).map (files.put · octets) := by
  rw [write, target]
  cases files.find path with
  | error fault => rfl
  | ok location =>
      dsimp only
      split <;> rfl

theorem target_eq_ok {path : Text} (opened : files.target path = .ok location) :
    files.find path = .ok location ∧ namesDirectory path = false := by
  rw [target] at opened
  cases found : files.find path with
  | error fault =>
      rw [found] at opened
      cases opened
  | ok place =>
      rw [found] at opened
      obtain ⟨isFile, same⟩ := guard_eq_ok_iff.mp opened
      exact ⟨congrArg Except.ok (Except.ok.inj same), Bool.eq_false_iff.mpr isFile⟩

theorem lookup_put (files : Files) (location : Location) (octets : Octets) :
    (files.put location octets).lookup location = some octets := by
  rw [put]
  split
  next there =>
    induction files with
    | nil => simp at there
    | cons file rest hypothesis =>
        by_cases same : file.1 = location
        · simp [same]
        · have later : rest.any fun file => file.1 = location := by simpa [same] using there
          have different : (location == file.1) = false := beq_false_of_ne (Ne.symm same)
          rw [List.map_cons, if_neg same, List.lookup_cons, different]
          exact hypothesis later
  next missing =>
    have notFound : files.lookup location = none := by
      rw [List.lookup_eq_none_iff]
      intro file member
      rw [bne_iff_ne]
      rintro rfl
      exact missing (List.any_eq_true.mpr ⟨file, member, by simp⟩)
    simp [List.lookup_append, notFound]

/-- Behind a write there are the places of before and the one that was written. -/
theorem any_put (files : Files) (location : Location) (octets : Octets)
    (test : Location → Bool) :
    (files.put location octets).any (fun file => test file.1) =
      (files.any (fun file => test file.1) || test location) := by
  rw [put]
  split
  next there =>
    have samePlace : ∀ file : Location × Octets,
        (if file.1 = location then (location, octets) else file).1 = file.1 := by
      intro file
      split
      next same => exact same.symm
      next => rfl
    obtain ⟨file, member, isThere⟩ := List.any_eq_true.mp there
    have same : file.1 = location := of_decide_eq_true isThere
    have counted : test location = true → files.any (fun file => test file.1) = true :=
      fun passes => List.any_eq_true.mpr ⟨file, member, same ▸ passes⟩
    rw [List.any_map]
    simp only [Function.comp_def, samePlace]
    cases passes : test location with
    | false => rw [Bool.or_false]
    | true => rw [counted passes, Bool.or_true]
  next => simp

/-- A write makes directories of the places around the file and takes none away. -/
theorem isDirectory_put (files : Files) (location place : Location) (octets : Octets) :
    (files.put location octets).isDirectory place =
      (files.isDirectory place ||
        place.isPrefixOf location && place.length < location.length) := by
  have places := any_put files location octets fun other =>
    place.isPrefixOf other && place.length < other.length
  simp only [isDirectory, places, Bool.or_assoc]

/-- Names lead to a place where none of them is too long and all but the last one are
those of directories. -/
theorem walk_cons_eq_ok_iff {start place : Location} {name : Text} {rest : List Text} :
    files.walk start (name :: rest) = .ok place ↔
      ¬longestName < (Utf8.encode name).length ∧
        if rest = [] then enter start name = place
        else
          files.isDirectory (enter start name) = true ∧
            files.walk (enter start name) rest = .ok place := by
  simp only [walk, List.isEmpty_iff, guard_eq_ok_iff]
  refine and_congr_right fun _ => ?_
  split
  next => rw [Except.ok.injEq]
  next =>
    cases files.isDirectory (enter start name) with
    | true => simp
    | false =>
        simp only [Bool.false_eq_true, if_false, false_and, iff_false]
        split <;> exact fun walked => nomatch walked

/-- A path names a file where it can be written and leads to a place that is no directory. -/
theorem find_eq_ok_iff {path : Text} :
    files.find path = .ok location ↔
      path.hasLone = false ∧ ¬path.contains (.char '\x00') = true ∧ ¬path = [] ∧
        ¬longestPath < (Utf8.encode path).length ∧
        files.walk (startOf path) (names path) = .ok location ∧
        ¬files.isDirectory location = true := by
  cases lone : path.hasLone with
  | true =>
      obtain ⟨failure, refused⟩ := Encoding.encode_utf8_eq_error_iff.mpr lone
      simp [find, refused]
  | false =>
  simp only [find, Encoding.encode_utf8_of_hasLone_eq_false lone, List.isEmpty_iff, guard_eq_ok_iff,
    true_and]
  refine and_congr_right fun _ => and_congr_right fun _ => and_congr_right fun _ => ?_
  cases files.walk (startOf path) (names path) with
  | error fault => exact iff_of_false (fun found => nomatch found) fun found => nomatch found.1
  | ok place =>
      simp only [guard_eq_ok_iff, Except.ok.injEq]
      constructor
      · rintro ⟨isFile, rfl⟩
        exact ⟨rfl, isFile⟩
      · rintro ⟨rfl, isFile⟩
        exact ⟨isFile, rfl⟩

/-- Names lead where they have led. -/
theorem walk_put {start place : Location} {names : List Text} (octets : Octets)
    (walked : files.walk start names = .ok place) :
    (files.put location octets).walk start names = .ok place := by
  induction names generalizing start with
  | nil => exact walked
  | cons name rest hypothesis =>
      obtain ⟨short, leads⟩ := walk_cons_eq_ok_iff.mp walked
      refine walk_cons_eq_ok_iff.mpr ⟨short, ?_⟩
      split
      next last => rwa [if_pos last] at leads
      next notLast =>
        rw [if_neg notLast] at leads
        refine ⟨?_, hypothesis leads.2⟩
        rw [isDirectory_put, leads.1, Bool.true_or]

/-- A path leads to the file that it has opened. -/
theorem find_put {path : Text} (octets : Octets) (found : files.find path = .ok location) :
    (files.put location octets).find path = .ok location := by
  obtain ⟨clean, noNull, nonempty, short, walked, isFile⟩ := find_eq_ok_iff.mp found
  refine find_eq_ok_iff.mpr ⟨clean, noNull, nonempty, short, walk_put octets walked, ?_⟩
  simp [isDirectory_put, isFile]

/-- A file holds what was written into it. -/
theorem read_put {path : Text} (octets : Octets) (opened : files.target path = .ok location) :
    (files.put location octets).read path = .ok octets := by
  obtain ⟨found, isFile⟩ := target_eq_ok opened
  simp only [read, find_put octets found, lookup_put, isFile, Bool.false_eq_true, if_false]

end SqlDump.Files

namespace SqlDump

/-- What is written of chunks are those in front of the first one with a lone surrogate. -/
theorem writeChunks_fst (chunks : List Text) :
    (writeChunks chunks).1 =
      Utf8.encode (chunks.takeWhile fun chunk => !chunk.hasLone).flatten := by
  induction chunks with
  | nil => rfl
  | cons chunk rest hypothesis =>
      cases lone : chunk.hasLone with
      | false =>
          simp [writeChunks, Encoding.encode_utf8_of_hasLone_eq_false lone, lone, hypothesis]
      | true =>
          obtain ⟨failure, refused⟩ := Encoding.encode_utf8_eq_error_iff.mpr lone
          simp [writeChunks, refused, lone]

/-- All chunks can be written where none has a lone surrogate. -/
theorem writeChunks_snd_eq_none_iff {chunks : List Text} :
    (writeChunks chunks).2 = none ↔ Text.hasLone chunks.flatten = false := by
  induction chunks with
  | nil => simp [writeChunks, Text.hasLone]
  | cons chunk rest hypothesis =>
      rw [List.flatten_cons, Text.hasLone_append]
      cases lone : chunk.hasLone with
      | false => simpa [writeChunks, Encoding.encode_utf8_of_hasLone_eq_false lone] using hypothesis
      | true =>
          obtain ⟨failure, refused⟩ := Encoding.encode_utf8_eq_error_iff.mpr lone
          simp [writeChunks, refused]

end SqlDump
