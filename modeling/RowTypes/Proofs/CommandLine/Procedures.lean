import RowTypes.CommandLine.Session
import RowTypes.Proofs.Run.Agreement

/-!
What comes of a procedure. Notes change nothing but the log file, and most of what a command does before
it writes files is to note something and to go on with a value. Two procedures match if they come to the
same in sessions whose trees agree, whatever is in their log files.

What is proved:
  1. `outcome_bind`, `exists_of_bind_ok`: a procedure goes on with the value and the session of the one
     before it.
  2. `quiet_notes`: notes are quiet, that is, they change the log file alone.
  3. `Yields.bind`: quiet procedures one after the other.
  4. `Matches.bind`, `Matches.onTree`: matching procedures one after the other, and on the tree.
-/

namespace RowTypes

open Storage Storage.Tree

/-- How a procedure ends in a session, and the session that it leaves. -/
def Procedure.outcome {α : Type} (p : Procedure α) (env : Surroundings) (session : Session) :
    Except CommandError α × Session :=
  (p.run env).run session

variable {α β : Type} {env : Surroundings} {session after last : Session} {near : Location → Prop}

namespace Procedure

theorem outcome_bind (p : Procedure α) (f : α → Procedure β) (env : Surroundings)
    (session : Session) :
    (p >>= f).outcome env session =
      match p.outcome env session with
      | (.ok a, after) => (f a).outcome env after
      | (.error e, after) => (.error e, after) := by
  have hcont : (p >>= f).outcome env session =
      ExceptT.bindCont (fun a => (f a).run env) (p.outcome env session).1
        (p.outcome env session).2 := rfl
  rw [hcont]
  rcases p.outcome env session with ⟨_ | _, after⟩ <;> rfl

theorem outcome_get_bind (f : Session → Procedure β) (env : Surroundings) (session : Session) :
    ((get : Procedure Session) >>= f).outcome env session = (f session).outcome env session := rfl

theorem outcome_read_bind (f : Surroundings → Procedure β) (env : Surroundings) (session : Session) :
    ((read : Procedure Surroundings) >>= f).outcome env session = (f env).outcome env session := rfl

theorem outcome_ofExcept {ε : Type} (wrap : ε → CommandError) (result : Except ε α)
    (env : Surroundings) (session : Session) :
    (ofExcept wrap result).outcome env session = (result.mapError wrap, session) := by
  cases result <;> rfl

theorem outcome_onTree {ε : Type} (wrap : ε → CommandError) (change : Tree → Tree × Except ε α)
    (env : Surroundings) (session : Session) :
    (onTree wrap change).outcome env session =
      ((change session.tree).2.mapError wrap, { session with tree := (change session.tree).1 }) := by
  rw [onTree, outcome_get_bind]
  rcases change session.tree with ⟨_, _ | _⟩ <;> rfl

theorem outcome_loadConfig (path : String) (env : Surroundings) (session : Session) :
    (loadConfig path).outcome env session =
      (match session.tree.readText path with
        | .error e => .error (.config (.unreadable e))
        | .ok text => (Config.parse text).mapError .config, session) := by
  rw [loadConfig, outcome_get_bind]
  cases session.tree.readText path with
  | error e => rfl
  | ok text => exact outcome_ofExcept _ _ _ _

end Procedure

/-! ## Notes -/

namespace Session

/-- Nothing but the log file changes, and it stays where it is. -/
structure Quiet (session after : Session) : Prop where
  keeps : Keeps (fun loc => ∃ log ∈ session.logFile, log.location = loc) session.tree after.tree
  others : ∀ loc, (∀ log ∈ session.logFile, log.location ≠ loc) →
    after.tree.get? loc = session.tree.get? loc
  logs : after.logFile.map LogFile.location = session.logFile.map LogFile.location

theorem Quiet.location {log : LogFile} (h : Quiet session after) (hlog : log ∈ after.logFile) :
    ∃ old ∈ session.logFile, old.location = log.location := by
  have hlogs := h.logs
  rw [Option.mem_def.mp hlog, Option.map_some] at hlogs
  exact Option.map_eq_some_iff.mp hlogs.symm

namespace Quiet

theorem refl (session : Session) : Quiet session session :=
  ⟨.refl _ _, fun _ _ => rfl, rfl⟩

theorem trans (h : Quiet session after) (h' : Quiet after last) : Quiet session last where
  keeps := by
    apply h.keeps.trans
    apply h'.keeps.mono
    rintro loc ⟨log, hlog, rfl⟩
    exact h.location hlog
  others loc hloc := by
    have hafter : ∀ log ∈ after.logFile, log.location ≠ loc := by
      intro log hlog
      obtain ⟨old, hold, heq⟩ := h.location hlog
      exact heq ▸ hloc old hold
    rw [h'.others loc hafter, h.others loc hloc]
  logs := h'.logs.trans h.logs

theorem readText {path text : String} (h : Quiet session after)
    (hlog : ∀ log ∈ session.logFile, log.location ≠ session.tree.place path)
    (hread : session.tree.readText path = .ok text) : after.tree.readText path = .ok text := by
  obtain ⟨hlocate, hfile⟩ := readText_iff.mp hread
  have hsame := h.others _ hlog
  have hthere : (after.tree.get? (session.tree.place path)).isSome := by
    rw [hsame, hfile]
    rfl
  rw [readText_iff, h.keeps.place_eq]
  exact ⟨h.keeps.locate hlocate hthere, hsame.trans hfile⟩

end Quiet

theorem quiet_note (env : Surroundings) (entry : LogEntry) (session : Session) :
    Quiet session (session.note env entry) := by
  unfold note
  split
  · exact .refl _
  · next log hlog =>
    split
    · split
      · next hfile =>
        refine ⟨?_, ?_, by simp [hlog]⟩
        · refine (keeps_put_file _ ?_).mono fun loc hloc => ⟨log, hlog, hloc.symm⟩
          rw [isDirectory_iff, hfile]
          simp
        · intro loc hloc
          exact get?_put_of_ne _ _ (Ne.symm (hloc log hlog))
      · exact .refl _
    · exact .refl _

theorem quiet_notes (env : Surroundings) (entries : List LogEntry) (session : Session) :
    Quiet session (entries.foldl (fun session entry => session.note env entry) session) := by
  induction entries generalizing session with
  | nil => exact .refl _
  | cons entry entries ih => exact (quiet_note env entry session).trans (ih _)

end Session

/-! ## Quiet procedures -/

namespace Procedure

/-- A procedure goes on with a value and changes nothing but the log file. -/
def Yields (env : Surroundings) (p : Procedure α) (session : Session) (a : α) : Prop :=
  ∃ after, p.outcome env session = (.ok a, after) ∧ session.Quiet after

theorem yields_pure (a : α) : Yields env (pure a) session a :=
  ⟨session, rfl, .refl _⟩

theorem yields_notes (entries : List LogEntry) : Yields env (notes entries) session () :=
  ⟨_, rfl, Session.quiet_notes env entries session⟩

theorem yields_event (name : String) (fields : List (String × Json)) (level : Level) :
    Yields env (event name fields level) session () :=
  yields_notes _

/-- What follows a quiet procedure starts with its value. -/
theorem Yields.outcome_bind {p : Procedure α} {a : α} (h : Yields env p session a)
    (f : α → Procedure β) :
    ∃ after, session.Quiet after ∧ (p >>= f).outcome env session = (f a).outcome env after := by
  obtain ⟨after, hp, hquiet⟩ := h
  exact ⟨after, hquiet, by rw [Procedure.outcome_bind, hp]⟩

theorem Yields.bind {p : Procedure α} {f : α → Procedure β} {a : α} {b : β}
    (h : Yields env p session a)
    (hf : ∀ after, session.Quiet after → Yields env (f a) after b) :
    Yields env (p >>= f) session b := by
  obtain ⟨after, hquiet, hp⟩ := h.outcome_bind f
  obtain ⟨last, hlast, hquiet'⟩ := hf after hquiet
  exact ⟨last, hp.trans hlast, hquiet.trans hquiet'⟩

end Procedure

/-! ## Matching procedures -/

/-- Two sessions work in the directory of `base`, have trees that agree on all that is near, and keep no
log file there. -/
structure Session.Near (near : Location → Prop) (base : Tree) (left right : Session) : Prop where
  workDir : left.tree.workDir = base.workDir
  tree : Agree near left.tree right.tree
  logLeft : ∀ log ∈ left.logFile, ¬near log.location
  logRight : ∀ log ∈ right.logFile, ¬near log.location

theorem Session.Quiet.agree (h : Session.Quiet session after)
    (hlog : ∀ log ∈ session.logFile, ¬near log.location) : Agree near session.tree after.tree where
  workDir := h.keeps.workDir.symm
  get? loc hloc := by
    refine (h.others loc fun log hmem => ?_).symm
    rintro rfl
    exact hlog log hmem hloc

theorem Session.Quiet.log (h : Session.Quiet session after)
    (hlog : ∀ log ∈ session.logFile, ¬near log.location) :
    ∀ log ∈ after.logFile, ¬near log.location := by
  intro log hmem
  obtain ⟨old, hold, heq⟩ := h.location hmem
  exact heq ▸ hlog old hold

theorem Storage.Tree.Agree.trans {left mid right : Tree} (h : Agree near left mid)
    (h' : Agree near mid right) : Agree near left right :=
  ⟨h.workDir.trans h'.workDir, fun loc hloc => (h.get? loc hloc).trans (h'.get? loc hloc)⟩

theorem Storage.Tree.Agree.symm {left right : Tree} (h : Agree near left right) :
    Agree near right left :=
  ⟨h.workDir.symm, fun loc hloc => (h.get? loc hloc).symm⟩

namespace Session.Near

variable {base : Tree} {left right left' right' : Session}

theorem quiet (h : Near near base left right) (hleft : Quiet left left')
    (hright : Quiet right right') : Near near base left' right' where
  workDir := hleft.keeps.workDir.trans h.workDir
  tree := ((hleft.agree h.logLeft).symm.trans h.tree).trans (hright.agree h.logRight)
  logLeft := hleft.log h.logLeft
  logRight := hright.log h.logRight

end Session.Near

namespace Procedure

variable {base : Tree}

/-- Two procedures, each in its surroundings, come to values that are related or to the same error in
sessions that are near each other, and leave such. -/
def Matches (env env' : Surroundings) (near : Location → Prop) (base : Tree) (R : α → α → Prop)
    (p q : Procedure α) : Prop :=
  ∀ left right : Session, Session.Near near base left right →
    Alike R (p.outcome env left).1 (q.outcome env' right).1 ∧
      Session.Near near base (p.outcome env left).2 (q.outcome env' right).2

variable {env' : Surroundings} {R : α → α → Prop} {S : β → β → Prop}

theorem matches_pure {a a' : α} (h : R a a') : Matches env env' near base R (pure a) (pure a') :=
  fun _ _ hnear => ⟨.ok h, hnear⟩

theorem matches_throw (e : CommandError) :
    Matches env env' near base R (throw e : Procedure α) (throw e) :=
  fun _ _ hnear => ⟨.error e, hnear⟩

theorem matches_notes (entries entries' : List LogEntry) :
    Matches env env' near base Eq (notes entries) (notes entries') :=
  fun left right hnear => ⟨.ok rfl, hnear.quiet (Session.quiet_notes env entries left)
    (Session.quiet_notes env' entries' right)⟩

theorem Matches.bind {p q : Procedure α} {f g : α → Procedure β}
    (h : Matches env env' near base R p q)
    (hf : ∀ a a', R a a' → Matches env env' near base S (f a) (g a')) :
    Matches env env' near base S (p >>= f) (q >>= g) := by
  intro left right hnear
  obtain ⟨hresult, hafter⟩ := h left right hnear
  rw [outcome_bind, outcome_bind]
  generalize p.outcome env left = ended, q.outcome env' right = ended' at hresult hafter
  obtain ⟨result, after⟩ := ended
  obtain ⟨result', after'⟩ := ended'
  cases hresult with
  | error e => exact ⟨.error e, hafter⟩
  | ok hvalue => exact hf _ _ hvalue after after' hafter

theorem matches_forIn {ι : Type} (items : List ι) {body body' : ι → Procedure PUnit}
    (h : ∀ item, Matches env env' near base Eq (body item) (body' item)) :
    Matches env env' near base Eq
      (forIn items PUnit.unit fun item _ => do body item; return .yield PUnit.unit)
      (forIn items PUnit.unit fun item _ => do body' item; return .yield PUnit.unit) := by
  induction items with
  | nil => exact matches_pure rfl
  | cons item items ih =>
    rw [List.forIn_cons, List.forIn_cons]
    refine ((h item).bind fun _ _ _ => matches_pure (R := Eq) rfl).bind ?_
    rintro step _ rfl
    cases step with
    | done => exact matches_pure rfl
    | yield => exact ih

theorem matches_onTree {ε : Type} {wrap : ε → CommandError} {change : Tree → Tree × Except ε α}
    (hworkDir : ∀ tree, (change tree).1.workDir = tree.workDir)
    (h : ∀ left right : Tree, left.workDir = base.workDir → Agree near left right →
      SameEnd near (change left) (change right)) :
    Matches env env' near base Eq (onTree wrap change) (onTree wrap change) := by
  intro left right hnear
  obtain ⟨htree, hresult⟩ := h left.tree right.tree hnear.workDir hnear.tree
  rw [outcome_onTree, outcome_onTree, hresult]
  refine ⟨?_, (hworkDir left.tree).trans hnear.workDir, htree, hnear.logLeft, hnear.logRight⟩
  exact .refl _

end Procedure

end RowTypes
