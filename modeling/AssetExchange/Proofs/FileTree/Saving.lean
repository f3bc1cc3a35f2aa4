import AssetExchange.FileTree.Basic
import AssetExchange.Proofs.Json.Faithful

/-!
# Files that were written

A file that was saved is found at the end of its path, with what was written to it
(`found_of_save`).  Writing it changes no way that led anywhere before (`walk_insert`), since no
directory was replaced; so the path leads to it, and it is what a search along the working
directory meets first.  Whether it can be saved is a matter of the path alone
(`save_of_save`).
-/

namespace AssetExchange
namespace FileTree

section Walking

variable {tree : FileTree} {names : List String} {entry : FileEntry} {place found : FilePlace}

theorem requireDirectory_eq_ok (required : tree.requireDirectory place = .ok ()) :
    tree.entry? place = some .directory := by
  unfold requireDirectory at required
  split at required
  · assumption
  · cases required
  · cases required

theorem entry?_insert (entry : FileEntry) (notDirectory : tree.entryAt? names ≠ some .directory)
    (held : tree.entry? place = some .directory) :
    FileTree.entry? (tree.insert names entry) place = some .directory := by
  cases place with
  | outside =>
      rfl
  | inside others =>
      have different : others ≠ names := by
        rintro rfl
        exact notDirectory held
      exact (tree.entryAt?_insert_of_ne entry different).trans held

theorem isSome_entryAt?_insert {others : List String} (below : names ≠ [])
    (held : (tree.entryAt? others).isSome = true) :
    ((tree.insert names entry).entryAt? others).isSome = true := by
  by_cases same : others = names
  · rw [same, entryAt?_insert_self tree names entry below]
    rfl
  · rw [entryAt?_insert_of_ne tree entry same]
    exact held

theorem step_eq (tree : FileTree) (place : FilePlace) (name : String) :
    tree.step place name = (tree.requireDirectory place).bind fun _ => tree.enter place name :=
  rfl

theorem requireDirectory_of_entry? (held : tree.entry? place = some .directory) :
    tree.requireDirectory place = .ok () := by
  unfold requireDirectory
  rw [held]

theorem enter_insert (below : names ≠ []) {name : String}
    (entered : tree.enter place name = .ok found) :
    (tree.insert names entry).enter place name = .ok found := by
  unfold enter at entered ⊢
  split at entered
  · rename_i stays
    rw [if_pos stays]
    exact entered
  · rename_i moves
    rw [if_neg moves]
    split at entered
    · rename_i back
      rw [if_pos back]
      exact entered
    · rename_i forward
      rw [if_neg forward]
      split at entered
      · cases entered
      · rename_i short
        rw [if_neg short]
        cases place with
        | outside =>
            cases entered
        | inside above =>
            dsimp only at entered ⊢
            split at entered
            · rename_i held
              rw [if_pos (isSome_entryAt?_insert below held)]
              exact entered
            · cases entered

/-- A step that could be taken can be taken after something was put where no directory is. -/
theorem step_insert (below : names ≠ []) (notDirectory : tree.entryAt? names ≠ some .directory)
    {name : String} (stepped : tree.step place name = .ok found) :
    (tree.insert names entry).step place name = .ok found := by
  -- The step starts from a directory, and that is not where something was put.
  rw [step_eq] at stepped
  obtain ⟨_, required, entered⟩ := ok_of_bind stepped
  have held := entry?_insert entry notDirectory (requireDirectory_eq_ok required)
  rw [step_eq, requireDirectory_of_entry? held]
  exact enter_insert below entered

theorem walk_cons (tree : FileTree) (place : FilePlace) (name : String) (path : List String) :
    tree.walk place (name :: path) = (tree.step place name).bind fun next => tree.walk next path :=
  List.foldlM_cons

theorem walk_concat (tree : FileTree) (place : FilePlace) (path : List String) (name : String) :
    tree.walk place (path ++ [name]) =
      (tree.walk place path).bind fun above => tree.step above name := by
  unfold walk
  rw [List.foldlM_append]
  congr 1
  funext above
  rw [List.foldlM_cons]
  cases tree.step above name <;> rfl

theorem walk_insert (below : names ≠ []) (notDirectory : tree.entryAt? names ≠ some .directory)
    {path : List String} (walked : tree.walk place path = .ok found) :
    (tree.insert names entry).walk place path = .ok found := by
  induction path generalizing place with
  | nil =>
      exact walked
  | cons name path inductionHypothesis =>
      rw [walk_cons] at walked
      obtain ⟨next, stepped, later⟩ := ok_of_bind walked
      rw [walk_cons, step_insert below notDirectory stepped]
      exact inductionHypothesis later

end Walking

/-! ## Writing -/

section Writing

variable {tree after : FileTree} {working names : List String} {path : TreePath}
  {content : String}

theorem ne_empty_of_getLast? {name : String}
    (last : (beforeLastSlashes names).getLast? = some name) : name ≠ "" := by
  unfold beforeLastSlashes at last
  rw [List.getLast?_reverse] at last
  rintro rfl
  have stops := List.head?_dropWhile_not String.isEmpty names.reverse
  rw [last] at stops
  cases stops

theorem beforeLastSlashes_eq (all : ¬(beforeLastSlashes names).length < names.length) :
    beforeLastSlashes names = names := by
  unfold beforeLastSlashes at all ⊢
  rw [List.length_reverse] at all
  have kept : names.reverse.dropWhile String.isEmpty = names.reverse := by
    apply (List.dropWhile_suffix _).eq_of_length_le
    rw [List.length_reverse]
    exact Nat.not_lt.1 all
  rw [kept, List.reverse_reverse]

/-- Names that stand for themselves, and neither for a directory nor for the one above it. -/
structure IsOrdinary (name : String) : Prop where
  notBlank : name ≠ ""
  notPoint : name ≠ "."
  notBack : name ≠ ".."

theorem enter_ordinary {holder : List String} {name : String} (ordinary : IsOrdinary name) :
    tree.enter (.inside holder) name =
      if nameLimit < name.utf8ByteSize then .error .nameTooLong
      else if (tree.entryAt? (holder ++ [name])).isSome then .ok (.inside (holder ++ [name]))
      else .error .notFound := by
  rw [enter, if_neg (not_or.2 ⟨ordinary.notBlank, ordinary.notPoint⟩), if_neg ordinary.notBack]

/-- A file is written below a directory where there is none. -/
theorem placeIn_eq_ok {above : FilePlace} {name : String} (ordinary : IsOrdinary name)
    (directory : tree.entry? above = some .directory)
    (placed : tree.placeIn above name = .ok names) :
    ∃ holder, above = .inside holder ∧ names = holder ++ [name] ∧
      name.utf8ByteSize ≤ nameLimit ∧ tree.entryAt? names ≠ some .directory := by
  unfold placeIn at placed
  rw [step_eq, requireDirectory_of_entry? directory, Except.bind] at placed
  cases above with
  | outside =>
      cases entered : tree.enter .outside name with
      | ok found =>
          rw [entered] at placed
          cases placed
      | error problem =>
          rw [entered] at placed
          cases problem <;> cases placed
  | inside holder =>
      rw [enter_ordinary ordinary] at placed
      by_cases long : nameLimit < name.utf8ByteSize
      · rw [if_pos long] at placed
        cases placed
      · rw [if_neg long] at placed
        by_cases held : (tree.entryAt? (holder ++ [name])).isSome = true
        · rw [if_pos held] at placed
          dsimp only at placed
          split at placed
          · cases placed
          · rename_i notDirectory
            cases placed
            exact ⟨holder, rfl, rfl, Nat.not_lt.1 long, notDirectory⟩
        · rw [if_neg held] at placed
          cases placed
          refine ⟨holder, rfl, rfl, Nat.not_lt.1 long, fun isDirectory => held ?_⟩
          rw [isDirectory]
          rfl

/-- Where a file is written: below a directory to which the path leads but for its last
name, and where there is no directory. -/
structure Written (tree : FileTree) (working : List String) (path : TreePath)
    (names : List String) : Prop where
  checked : checkNames path.names = .ok ()
  isEmpty : path.isEmpty = false
  reached : ∃ before name holder, path.names = before ++ [name] ∧ names = holder ++ [name] ∧
    tree.walk (startPlace working path.start) before = .ok (.inside holder) ∧
    tree.entry? (.inside holder) = some .directory ∧
    IsOrdinary name ∧ name.utf8ByteSize ≤ nameLimit
  notDirectory : tree.entryAt? names ≠ some .directory

theorem written_of_writePlace (placed : tree.writePlace working path = .ok names) :
    Written tree working path names := by
  unfold writePlace at placed
  obtain ⟨_, checked, placed⟩ := ok_of_bind placed
  split at placed
  · cases placed
  · rename_i notEmpty
    dsimp only at placed
    split at placed
    · cases placed
    · rename_i name last
      obtain ⟨above, walked, placed⟩ := ok_of_bind placed
      obtain ⟨_, required, placed⟩ := ok_of_bind placed
      split at placed
      · cases placed
      · rename_i kept
        rw [not_or, not_or] at kept
        obtain ⟨notPoint, notBack, all⟩ := kept
        have ordinary : IsOrdinary name := ⟨ne_empty_of_getLast? last, notPoint, notBack⟩
        rw [beforeLastSlashes_eq all] at last walked
        have directory := requireDirectory_eq_ok required
        obtain ⟨holder, rfl, rfl, short, notDirectory⟩ := placeIn_eq_ok ordinary directory placed
        obtain ⟨before, split⟩ := List.getLast?_eq_some_iff.1 last
        rw [split, List.dropLast_concat] at walked
        exact ⟨checked, Bool.eq_false_iff.2 notEmpty,
          ⟨before, name, holder, split, rfl, walked, directory, ordinary, short⟩, notDirectory⟩

/-- The path of a file that was written leads to it. -/
theorem Written.walk (written : Written tree working path names) (content : String) :
    (tree.insert names (.file content)).walk (startPlace working path.start) path.names =
      .ok (.inside names) := by
  obtain ⟨before, name, holder, split, rfl, walked, directory, ordinary, short⟩ :=
    written.reached
  have below : holder ++ [name] ≠ [] := List.concat_ne_nil name holder
  have kept := entry?_insert (.file content) written.notDirectory directory
  have held : ((tree.insert (holder ++ [name]) (.file content)).entryAt?
      (holder ++ [name])).isSome = true := by
    rw [entryAt?_insert_self tree _ _ below]
    rfl
  rw [split, walk_concat, walk_insert below written.notDirectory walked]
  change step _ _ name = _
  rw [step_eq, requireDirectory_of_entry? kept]
  change enter _ _ name = _
  rw [enter_ordinary ordinary, if_neg (Nat.not_lt.2 short), if_pos held]

theorem Written.ne_nil (written : Written tree working path names) : names ≠ [] := by
  obtain ⟨_, name, holder, _, rfl, _⟩ := written.reached
  exact List.concat_ne_nil name holder

theorem Written.locate (written : Written tree working path names) (content : String) :
    (tree.insert names (.file content)).locate working path = .ok (.inside names) := by
  unfold FileTree.locate
  rw [written.checked, written.isEmpty]
  exact written.walk content

theorem Written.findContent? (written : Written tree working path names) (content : String) :
    (tree.insert names (.file content)).findContent? working path = some content := by
  have found : (tree.insert names (.file content)).contentFrom?
      (startPlace working path.start) path.names = some content := by
    unfold contentFrom?
    rw [written.walk content]
    dsimp only [ entry?]
    rw [entryAt?_insert_self tree _ _ written.ne_nil]
  unfold FileTree.findContent?
  split
  · rename_i start
    rw [start, startPlace] at found
    rw [List.range_succ_eq_map, List.findSome?_cons, Nat.sub_zero, List.take_length, found]
  · exact found

end Writing

/-! ## Saving -/

section Saving

variable {tree after : FileTree} {working : List String} {path : TreePath} {content : String}

theorem top_makeDirectory {made : FileTree} {start : FilePlace} {names : List String}
    (done : tree.makeDirectory start names = .ok made) : made.top = tree.top := by
  unfold makeDirectory at done
  obtain ⟨_, _, done⟩ := ok_of_bind done
  obtain ⟨above, _, done⟩ := ok_of_bind done
  split at done
  · cases done
  · cases done
    rfl
  · cases done

theorem top_ensureDirectory {made : FileTree} {start : FilePlace} {names : List String}
    (done : tree.ensureDirectory start names = .ok made) : made.top = tree.top := by
  unfold ensureDirectory at done
  split at done
  · rename_i created
    cases done
    exact top_makeDirectory created
  · split at done
    · cases done
      rfl
    · cases done

theorem top_makeDirectories {made : FileTree} {start : FilePlace} {paths : List (List String)}
    (done : tree.makeDirectories start paths = .ok made) : made.top = tree.top := by
  induction paths generalizing made with
  | nil =>
      cases done
      rfl
  | cons names holders inductionHypothesis =>
      rw [makeDirectories] at done
      split at done
      · obtain ⟨prepared, earlier, done⟩ := ok_of_bind done
        exact (top_ensureDirectory done).trans (inductionHypothesis earlier)
      · exact top_ensureDirectory done

/-- A file that was saved is where its path leads, and it has what was written. -/
theorem found_of_save (saved : tree.save working path content = .ok after) :
    after.top = tree.top ∧
      ∃ names, after.locate working path = .ok (.inside names) ∧
        after.findContent? working path = some content := by
  unfold save at saved
  obtain ⟨prepared, made, written⟩ := ok_of_bind saved
  obtain ⟨names, placed, rfl⟩ := ok_of_map written
  have written := written_of_writePlace placed
  have top : prepared.top = tree.top := top_makeDirectories made
  exact ⟨top, names, written.locate content, written.findContent? content⟩

/-- What is saved does not decide whether it can be. -/
theorem save_of_save (saved : tree.save working path content = .ok after) (other : String) :
    ∃ elsewhere, tree.save working path other = .ok elsewhere := by
  unfold save at saved ⊢
  obtain ⟨prepared, made, written⟩ := ok_of_bind saved
  obtain ⟨names, placed, _⟩ := ok_of_map written
  refine ⟨prepared.insert names (.file other), ?_⟩
  rw [made]
  change (prepared.writePlace working path).map _ = _
  rw [placed]
  rfl

end Saving

end FileTree
end AssetExchange
