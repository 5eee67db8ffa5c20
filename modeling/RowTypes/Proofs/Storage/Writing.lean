import RowTypes.Proofs.Storage.Places
import RowTypes.Storage.AtomicWrite

/-!
Writing by way of a sibling. Whether or not a file is written, no other file changes but the sibling,
and a file that is written is read again with its new content.

What is proved:
  1. `kept_makeDirectories`: what each try to make a directory keeps is kept, and so are all files
     (`keeps_makeParents`).
  2. `writeAtomic_ok` and `writeAtomic_error`: which places a write touches, and what it leaves there.
  3. `readText_iff`: a path reads as a text iff it leads to a file with the bytes of the text.
-/

namespace RowTypes.Storage

open Storage.Tree

variable {tree after : Tree} {path : String} {content : ByteArray} {text : String}

/-! ## Reading -/

theorem fromUTF8?_eq_some_iff {bytes : ByteArray} :
    String.fromUTF8? bytes = some text ↔ bytes = text.toUTF8 := by
  unfold String.fromUTF8?
  constructor
  · intro h
    split at h
    · cases h
      rfl
    · cases h
  · rintro rfl
    exact dif_pos text.isValidUTF8

theorem readText_iff : tree.readText path = .ok text ↔
    tree.locate path = .ok (tree.place path) ∧
      tree.get? (tree.place path) = some (.file text.toUTF8) := by
  unfold readText
  constructor
  · intro h
    split at h
    · cases h
    · next bytes hread =>
      split at h
      · next read hbytes =>
        cases h
        rw [← fromUTF8?_eq_some_iff.mp hbytes]
        exact readBytes_ok hread
      · cases h
  · rintro ⟨hlocate, hfile⟩
    have hread : tree.readBytes path = .ok text.toUTF8 := by
      simp only [readBytes, hlocate, hfile]
    simp only [hread, fromUTF8?_eq_some_iff.mpr rfl]

theorem readText_of_readExisting (h : readExisting tree path = .ok text) (hne : text ≠ "") :
    tree.readText path = .ok text := by
  unfold readExisting at h
  split at h
  · cases h
    exact absurd rfl hne
  · exact h

/-! ## Directories on the way -/

/-- One try to make a directory, which may be there already. -/
def attempt (tree : Tree) (path : String) : Tree × Except IoError Unit :=
  match tree.makeDirectory path with
  | .ok made => (made, .ok ())
  | .error e => (tree, if tree.leadsToDirectory path then .ok () else .error e)

theorem attempt_error {e : IoError} (h : tree.makeDirectory path = .error e) :
    attempt tree path = (tree, if tree.leadsToDirectory path then .ok () else .error e) := by
  rw [attempt, h]

theorem keeps_attempt (tree : Tree) (path : String) :
    Keeps (fun _ => False) tree (attempt tree path).1 := by
  unfold attempt
  split
  · next made hmade => exact keeps_makeDirectory hmade
  · exact .refl _ tree

theorem makeDirectories_succ (tree : Tree) (fuel : Nat) {p : Path} (hne : p.toString ≠ "") :
    makeDirectories tree (fuel + 1) p =
      match tree.makeDirectory p.toString with
      | .error .notFound =>
        match p.parent? with
        | none => (tree, .error .notFound)
        | some q =>
          match makeDirectories tree fuel q with
          | (above, .error e) => (above, .error e)
          | (above, .ok ()) => attempt above p.toString
      | _ => attempt tree p.toString := by
  have hempty : p.toString.isEmpty = false := by simpa using hne
  rw [makeDirectories]
  simp only [hempty, Bool.false_eq_true, if_false]
  unfold attempt
  cases hmake : tree.makeDirectory p.toString with
  | ok made => rfl
  | error e =>
    cases e with
    | notFound =>
      cases p.parent? with
      | none => rfl
      | some q =>
        rcases habove : makeDirectories tree fuel q with ⟨above, e | _⟩
        · simp only [habove]
        · cases hagain : above.makeDirectory p.toString with
          | ok made => simp only [habove, hagain]
          | error e => simp only [habove, hagain]
    | _ => rfl

/-- What each try keeps is kept when all directories of a path are made. -/
theorem kept_makeDirectories {P : Tree → Prop}
    (hattempt : ∀ tree path, P tree → P (attempt tree path).1) (h : P tree) (fuel : Nat) (p : Path) :
    P (makeDirectories tree fuel p).1 := by
  -- By induction on the fuel: each tree on the way comes from an attempt on the one before it.
  induction fuel generalizing p with
  | zero => exact h
  | succ fuel ih =>
    by_cases hne : p.toString = ""
    · simpa [makeDirectories, hne] using h
    · rw [makeDirectories_succ tree fuel hne]
      split
      · cases p.parent? with
        | none => exact h
        | some q =>
          have habove := ih q
          dsimp only
          split
          · next above e hmade => exact hmade ▸ habove
          · next above hmade =>
            rw [hmade] at habove
            exact hattempt above _ habove
      · exact hattempt tree _ h

theorem keeps_makeDirectories (tree : Tree) (fuel : Nat) (path : Path) :
    Keeps (fun _ => False) tree (makeDirectories tree fuel path).1 :=
  kept_makeDirectories (fun _ _ h => h.trans (keeps_attempt _ _)) (.refl _ tree) fuel path

theorem keeps_makeParents (tree : Tree) (path : Path) :
    Keeps (fun _ => False) tree (makeParents tree path).1 := by
  unfold makeParents
  split
  · exact keeps_makeDirectories tree _ _
  · exact .refl _ tree

/-! ## Writing -/

/-- Where the sibling of a path is, if the path has a name. -/
def siblingPlace? (tree : Tree) (path : String) : Option Location :=
  (Path.ofString path).name?.map fun name => tree.place (temporaryPath (Path.ofString path) name)

/-- What is done once the directories of a file are made: the sibling is written and moved. -/
def putInPlace (tree : Tree) (path name : String) (content : ByteArray) : Tree × Except IoError Unit :=
  let sibling := temporaryPath (Path.ofString path) name
  match tree.writeFile sibling content with
  | .error e => (tree, .error e)
  | .ok written =>
    match written.renameFile sibling path with
    | .ok tree => (tree, .ok ())
    | .error e =>
      match written.removeFile sibling with
      | .ok tree => (tree, .error e)
      | .error _ => (written, .error e)

theorem writeAtomic_eq (tree : Tree) (path : String) (content : ByteArray) :
    writeAtomic tree path content =
      match makeParents tree (Path.ofString path) with
      | (made, .error e) => (made, .error e)
      | (made, .ok ()) =>
        match (Path.ofString path).name? with
        | none => (made, .error (.noFileName path))
        | some name => putInPlace made path name content := by
  unfold writeAtomic putInPlace
  rfl

/-- The steps of a file that is written: directories are made, the sibling is written, and it is moved. -/
structure WrittenBy (tree : Tree) (path : String) (content : ByteArray) (after made written : Tree)
    (name : String) : Prop where
  parents : Keeps (fun _ => False) tree made
  named : (Path.ofString path).name? = some name
  sibling : made.writeFile (temporaryPath (Path.ofString path) name) content = .ok written
  moved : written.renameFile (temporaryPath (Path.ofString path) name) path = .ok after

theorem putInPlace_cases {name : String} {result : Except IoError Unit}
    (h : putInPlace tree path name content = (after, result)) :
    (result = .ok () ∧ ∃ written,
        tree.writeFile (temporaryPath (Path.ofString path) name) content = .ok written ∧
        written.renameFile (temporaryPath (Path.ofString path) name) path = .ok after) ∨
      ((∃ reason, result = .error reason) ∧
        Keeps (fun loc => loc = tree.place (temporaryPath (Path.ofString path) name)) tree after) := by
  unfold putInPlace at h
  dsimp only at h
  split at h
  · next reason _ =>
    cases h
    exact .inr ⟨⟨reason, rfl⟩, .refl _ tree⟩
  · next written hwritten =>
    have hkeeps := (writeFile_ok hwritten).1
    split at h
    · next moved hmoved =>
      cases h
      exact .inl ⟨rfl, written, hwritten, hmoved⟩
    · next reason _ =>
      split at h
      · next cleared hcleared =>
        cases h
        have hremoved := keeps_removeFile hcleared
        rw [hkeeps.place_eq] at hremoved
        exact .inr ⟨⟨reason, rfl⟩, hkeeps.trans hremoved⟩
      · cases h
        exact .inr ⟨⟨reason, rfl⟩, hkeeps⟩

/-- A write either goes through all steps, or touches no place but that of the sibling. -/
theorem writeAtomic_cases {result : Except IoError Unit}
    (h : writeAtomic tree path content = (after, result)) :
    (result = .ok () ∧ ∃ made written name, WrittenBy tree path content after made written name) ∨
      ((∃ reason, result = .error reason) ∧
        Keeps (fun loc => siblingPlace? tree path = some loc) tree after) := by
  have hparents := keeps_makeParents tree (Path.ofString path)
  have hweaker : Keeps (fun loc => siblingPlace? tree path = some loc) tree
      (makeParents tree (Path.ofString path)).1 := hparents.mono fun _ => False.elim
  rw [writeAtomic_eq] at h
  split at h
  · next made reason hmade =>
    cases h
    rw [hmade] at hweaker
    exact .inr ⟨⟨reason, rfl⟩, hweaker⟩
  · next made hmade =>
    rw [hmade] at hparents hweaker
    split at h
    · cases h
      exact .inr ⟨⟨_, rfl⟩, hweaker⟩
    · next name hname =>
      rcases putInPlace_cases h with ⟨rfl, written, hwritten, hmoved⟩ | ⟨hfailed, hkeeps⟩
      · exact .inl ⟨rfl, made, written, name, hparents, hname, hwritten, hmoved⟩
      · refine .inr ⟨hfailed, hweaker.trans (hkeeps.mono fun loc hloc => ?_)⟩
        rw [siblingPlace?, hname, hloc, hparents.place_eq]
        rfl

/-- What is not written leaves all files but the sibling as they were. -/
theorem writeAtomic_error {reason : IoError}
    (h : writeAtomic tree path content = (after, .error reason)) :
    Keeps (fun loc => siblingPlace? tree path = some loc) tree after := by
  obtain ⟨hresult, -⟩ | ⟨-, hkeeps⟩ := writeAtomic_cases h
  · cases hresult
  · exact hkeeps

/-- A file that is written leaves all others but the sibling as they were, and its path leads to the new
content. -/
theorem writeAtomic_ok (h : writeAtomic tree path content = (after, .ok ())) :
    Keeps (fun loc => loc = tree.place path ∨ siblingPlace? tree path = some loc) tree after ∧
      after.locate path = .ok (tree.place path) ∧
      after.get? (tree.place path) = some (.file content) := by
  obtain ⟨-, made, written, name, hparents, hname, hsibling, hmoved⟩ | ⟨⟨reason, hresult⟩, -⟩ :=
    writeAtomic_cases h
  · obtain ⟨hwritten, hfile⟩ := writeFile_ok hsibling
    obtain ⟨hkeeps, hlocate, read, hread, hthere⟩ := renameFile_ok hmoved
    obtain rfl : read = content := by
      have hold := (readBytes_ok hread).2
      rw [hwritten.place_eq, hfile] at hold
      exact (Node.file.inj (Option.some.inj hold)).symm
    have hpath : written.place path = tree.place path := by
      rw [hwritten.place_eq, hparents.place_eq]
    have hplace : siblingPlace? tree path =
        some (made.place (temporaryPath (Path.ofString path) name)) := by
      rw [siblingPlace?, hname, hparents.place_eq]
      rfl
    rw [hpath] at hlocate hthere
    refine ⟨?_, hlocate, hthere⟩
    rw [hplace]
    apply (hparents.mono fun _ => False.elim).trans
    apply (hwritten.mono fun loc hloc => .inr (congrArg some hloc.symm)).trans
    apply hkeeps.mono
    rintro loc (rfl | rfl)
    · right
      rw [hwritten.place_eq]
    · left
      exact hpath
  · cases hresult

end RowTypes.Storage
