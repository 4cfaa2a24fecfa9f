import CacheTiers.Proofs.Job.Apart
import CacheTiers.Proofs.Job.InStep

namespace CacheTiers

variable {W Q A B : Type}

inductive Note (Q A : Type) where
  | issued (place : Nat) (query : Q)
  | resumed (place : Nat)
  | ended (place : Nat) (answer : A)
deriving DecidableEq, Repr

structure Noted (W Q A : Type) where
  world : W
  notes : List (Note Q A)

namespace Note

def place : Note Q A → Nat
  | issued place _ | resumed place | ended place _ => place

def isAt (place : Nat) (note : Note Q A) : Bool := note.place = place

def issues : Note Q A → Bool
  | issued _ _ => true
  | resumed _ | ended _ _ => false

def resumes : Note Q A → Bool
  | resumed _ => true
  | issued _ _ | ended _ _ => false

-- The notes of a group of jobs that were asked the same and have given these answers: each of them was issued once, and
-- then resumed until it ended, and nothing was issued after anything was resumed.
structure Together (query : Q) (answers : List A) (notes : List (Note Q A)) : Prop where
  once : ∀ place answer, answers[place]? = some answer →
    ∃ waits, notes.filter (isAt place) = issued place query :: (List.replicate waits (resumed place) ++ [ended place answer])
  only : ∀ note ∈ notes, note.place < answers.length
  ahead : ∀ before place after, notes = before ++ resumed place :: after → ∀ other query, issued other query ∉ after

end Note

def Poll.noted (place : Nat) : Poll W A → List (Note Q A) → Poll (Noted W Q A) A
  | .ready answer world, notes => .ready answer ⟨world, notes ++ [.ended place answer]⟩
  | .pending rest world, notes =>
    .pending (fun later => (rest later.world).noted place (later.notes ++ [.resumed place])) ⟨world, notes⟩

def Job.noted (place : Nat) (query : Q) (job : Job W A) : Job (Noted W Q A) A := fun noted =>
  (job noted.world).noted place (noted.notes ++ [.issued place query])

def Job.notedFrom (query : Q) : Nat → List (Job W A) → List (Job (Noted W Q A) A)
  | _, [] => []
  | place, job :: rest => job.noted place query :: notedFrom query (place + 1) rest

namespace Noted

def Erases (noted : Noted W Q A) (world : W) : Prop := noted.world = world

def Adds (allowed : Note Q A → Prop) (before after : Noted W Q A) : Prop :=
  ∃ more, after.notes = before.notes ++ more ∧ ∀ note ∈ more, allowed note

theorem composes_adds (allowed : Note Q A → Prop) :
    Composes (Adds allowed : Noted W Q A → Noted W Q A → Prop) := by
  refine ⟨fun noted => ⟨[], (List.append_nil _).symm, List.forall_mem_nil _⟩, ?_⟩
  rintro first second third ⟨early, longer, before⟩ ⟨late, further, after⟩
  refine ⟨early ++ late, ?_, List.forall_mem_append.mpr ⟨before, after⟩⟩
  rw [further, longer, List.append_assoc]

theorem adds_mono {allowed wide : Note Q A → Prop} {before after : Noted W Q A} (adds : Adds allowed before after)
    (wider : ∀ note, allowed note → wide note) : Adds wide before after := by
  obtain ⟨more, longer, each⟩ := adds
  exact ⟨more, longer, fun note member => wider note (each note member)⟩

end Noted

theorem Poll.noted_erases (place : Nat) (poll : Poll W A) (notes : List (Note Q A)) :
    (poll.noted place notes).InStep Noted.Erases Eq poll := by
  induction poll generalizing notes with
  | ready answer world => exact ⟨rfl, rfl⟩
  | pending rest world ih =>
      refine ⟨rfl, ?_⟩
      rintro later world rfl
      exact ih later.world (later.notes ++ [.resumed place])

theorem Job.noted_erases (place : Nat) (query : Q) (job : Job W A) :
    Job.InStep Noted.Erases Eq (job.noted place query) job := by
  rintro noted world rfl
  exact Poll.noted_erases place (job noted.world) (noted.notes ++ [.issued place query])

section Opening

variable {early late : W → W → Prop}

def always (_ _ : W) : Prop := True

def Poll.Opens (early late : W → W → Prop) (first : W) : Poll W A → Prop
  | .ready _ world => early first world
  | .pending rest world =>
    early first world ∧ ∀ later, Poll.Abides always late (fun _ _ => True) later (rest later)

namespace Turns

def Opens (early late : W → W → Prop) : W → Turns W A → Prop
  | first, .done _ world => early first world
  | first, .turn _ rest world => early first world ∧ ∀ later, Opens early late later (rest later)
  | first, .roundEnd rest world =>
    early first world ∧ ∀ later, Abides always late (fun _ _ => True) later (rest later)

theorem abides_late {poll : Poll W A} {others : W → Turns W B} {first : W} (composes : Composes late)
    (abides : Poll.Abides always late (fun _ _ => True) first poll)
    (rest : ∀ later, Abides always late (fun _ _ => True) later (others later)) :
    Abides always late (fun _ _ => True) first (before poll others) := by
  have compatible : Compatible always late (fun (_ : A) _ => True) always late (fun (_ : B) _ => True) late :=
    ⟨composes_any, composes_any, composes.refl, fun _ _ step => ⟨trivial, step⟩, fun _ _ step => ⟨trivial, step⟩,
      fun _ _ _ _ _ => trivial, fun _ _ _ _ _ => trivial⟩
  exact abides_mono (abides_before compatible abides fun later _ => rest later) (fun _ _ step => ⟨step, step⟩)
    (fun _ _ step => step) fun _ _ _ => trivial

theorem opens_map {turns : Turns W A} {f : A → B} {first : W} (opens : Opens early late first turns) :
    Opens early late first (turns.map f) := by
  induction turns generalizing first with
  | done answer world => exact opens
  | turn ended rest world ih => exact ⟨opens.1, fun later => ih later (opens.2 later)⟩
  | roundEnd rest world _ => exact ⟨opens.1, fun later => abides_map (opens.2 later) fun _ _ _ => trivial⟩

theorem opens_round {turns : Turns W B} {rest : W → Poll W A} {first : W} (composes : Composes late)
    (resumes : ∀ later, Poll.Abides always late (fun _ _ => True) later (rest later))
    (opens : Opens early late first turns) :
    Opens early late first (turns.round fun others world => roundEnd (fun later => before (rest later) others) world) := by
  induction turns generalizing first with
  | done answer world =>
      exact ⟨opens, fun later => abides_late composes (resumes later) fun further => ⟨composes.refl further, trivial⟩⟩
  | turn ended others world ih => exact ⟨opens.1, fun later => ih later (opens.2 later)⟩
  | roundEnd others world _ => exact ⟨opens.1, fun later => abides_late composes (resumes later) opens.2⟩

theorem opens_before {poll : Poll W A} {others : W → Turns W B} {first : W} (composes : Composes late)
    (opens : Poll.Opens early late first poll) (rest : ∀ later, Opens early late later (others later)) :
    Opens early late first (before poll others) := by
  cases poll with
  | ready answer world => exact ⟨opens, fun later => opens_map (rest later)⟩
  | pending more world => exact ⟨opens.1, fun later => opens_round composes opens.2 (rest later)⟩

theorem opens_of_jobs {jobs : List (Job W A)} (begins : Composes early) (goesOn : Composes late)
    (each : ∀ job ∈ jobs, ∀ world, Poll.Opens early late world (job world)) (first : W) :
    Opens early late first (ofJobs jobs first) := by
  induction jobs generalizing first with
  | nil => exact begins.refl first
  | cons job jobs ih =>
      obtain ⟨here, others⟩ := List.forall_mem_cons.mp each
      exact opens_map (opens_before goesOn (here first) (ih others))

theorem opens_finish {turns : Turns W A} {first : W} (begins : Composes early) (goesOn : Composes late)
    (opens : Opens early late first turns) : ∃ between, early first between ∧ late between turns.finish.2 := by
  induction turns generalizing first with
  | done answer world => exact ⟨world, opens, goesOn.refl world⟩
  | turn ended rest world ih =>
      obtain ⟨between, opened, followed⟩ := ih world (opens.2 world)
      exact ⟨between, begins.trans first world between opens.1 opened, followed⟩
  | roundEnd rest world _ =>
      have ended := Poll.abides_finish (fun _ => trivial) goesOn.trans
        (abides_by_round (fun _ => trivial) goesOn.trans (opens.2 world))
      rw [finish_by_round] at ended
      exact ⟨world, opens.1, ended.1⟩

end Turns

theorem Job.run_all_opens {jobs : List (Job W A)} (begins : Composes early) (goesOn : Composes late)
    (each : ∀ job ∈ jobs, ∀ world, Poll.Opens early late world (job world)) (first : W) :
    ∃ between, early first between ∧ late between ((Job.all jobs).run first).2 := by
  rw [Job.run_all]
  exact Turns.opens_finish begins goesOn (Turns.opens_of_jobs begins goesOn each first)

end Opening

namespace Note

def footing (query : Q) (base : List (Note Q A)) : Footing Nat (Noted W Q A) A where
  relies := fun place before after => after.notes.filter (isAt place) = before.notes.filter (isAt place)
  keeps := fun place => Noted.Adds fun note => note.place = place
  ends := fun place answer now => ∃ waits, now.notes.filter (isAt place) =
    base.filter (isAt place) ++ issued place query :: (List.replicate waits (resumed place) ++ [ended place answer])

theorem footing_apart (query : Q) (base : List (Note Q A)) : (footing (W := W) query base).Apart where
  relies := fun _ => ⟨fun _ => rfl, fun _ _ _ first second => second.trans first⟩
  keeps := fun _ => Noted.composes_adds _
  away := by
    rintro place other different before after ⟨more, longer, mine⟩
    have none : more.filter (isAt other) = [] := by
      rw [List.filter_eq_nil_iff]
      intro note member
      simpa [isAt, mine note member] using Ne.symm different
    simp only [footing, longer, List.filter_append, none, List.append_nil]
  stable := by
    rintro place answer before after ⟨waits, ended⟩ relied
    exact ⟨waits, relied.trans ended⟩

theorem filter_own (place : Nat) (notes : List (Note Q A)) (note : Note Q A) (own : note.place = place) :
    (notes ++ [note]).filter (isAt place) = notes.filter (isAt place) ++ [note] := by
  have here : isAt place note = true := by simpa [isAt] using own
  rw [List.filter_append, List.filter_cons_of_pos here, List.filter_nil]

theorem noted_abides (query : Q) (base notes : List (Note Q A)) (place waits : Nat) (poll : Poll W A)
    (first : Noted W Q A) (begun : ∃ more, notes = first.notes ++ more ∧ ∀ note ∈ more, note.place = place)
    (here : notes.filter (isAt place) =
      base.filter (isAt place) ++ issued place query :: List.replicate waits (resumed place)) :
    Poll.Abides ((footing query base).relies place) ((footing query base).keeps place) ((footing query base).ends place)
      first (poll.noted place notes) := by
  induction poll generalizing notes first waits with
  | ready answer world =>
      obtain ⟨more, rfl, mine⟩ := begun
      refine ⟨⟨more ++ [ended place answer], by simp, List.forall_mem_append.mpr ⟨mine, by simp [Note.place]⟩⟩, waits, ?_⟩
      rw [filter_own place _ (ended place answer) rfl, here, List.append_assoc, List.cons_append]
  | pending rest world ih =>
      refine ⟨begun, fun later relied => ?_⟩
      refine ih later.world (later.notes ++ [resumed place]) (waits + 1) later ⟨_, rfl, by simp [Note.place]⟩ ?_
      rw [filter_own place _ (resumed place) rfl, relied, here, List.append_assoc, List.cons_append,
        List.replicate_succ']

theorem noted_apart (query : Q) (place : Nat) (jobs : List (Job W A)) (start : Noted W Q A) :
    List.Forall₂ (fun spot job => ∀ later, (footing query start.notes).relies spot start later →
      Poll.Abides ((footing query start.notes).relies spot) ((footing query start.notes).keeps spot)
        ((footing query start.notes).ends spot) later (job later))
      (List.range' place jobs.length) (Job.notedFrom query place jobs) := by
  induction jobs generalizing place with
  | nil => exact .nil
  | cons job rest ih =>
      rw [List.length_cons, List.range'_succ, Job.notedFrom]
      refine .cons ?_ (ih (place + 1))
      intro later relied
      refine noted_abides query start.notes _ place 0 (job later.world) later ⟨_, rfl, by simp [Note.place]⟩ ?_
      rw [filter_own place _ (issued place query) rfl, relied, List.replicate_zero]

end Note

theorem Poll.noted_late (place : Nat) (poll : Poll W A) (notes : List (Note Q A)) (first : Noted W Q A)
    (begun : ∃ more, notes = first.notes ++ more ∧ ∀ note ∈ more, note.issues = false) :
    Poll.Abides always (Noted.Adds fun note => note.issues = false) (fun _ _ => True) first (poll.noted place notes) := by
  induction poll generalizing notes first with
  | ready answer world =>
      obtain ⟨more, rfl, none⟩ := begun
      exact ⟨⟨more ++ [.ended place answer], by simp, List.forall_mem_append.mpr ⟨none, by simp [Note.issues]⟩⟩, trivial⟩
  | pending rest world ih =>
      exact ⟨begun, fun later _ => ih later.world _ later ⟨[.resumed place], rfl, by simp [Note.issues]⟩⟩

theorem Job.noted_opens (place : Nat) (query : Q) (job : Job W A) (first : Noted W Q A) :
    Poll.Opens (Noted.Adds fun note => note.resumes = false) (Noted.Adds fun note => note.issues = false) first
      (job.noted place query first) := by
  rw [Job.noted]
  cases job first.world with
  | ready answer world => exact ⟨[.issued place query, .ended place answer], by simp, by simp [Note.resumes]⟩
  | pending rest world =>
      refine ⟨⟨[.issued place query], rfl, by simp [Note.resumes]⟩, fun later => ?_⟩
      exact Poll.noted_late place (rest later.world) _ later ⟨[.resumed place], rfl, by simp [Note.issues]⟩

theorem Job.mem_noted_from (query : Q) (place : Nat) (jobs : List (Job W A)) :
    ∀ job ∈ Job.notedFrom query place jobs, ∃ spot, ∃ original ∈ jobs, job = original.noted spot query := by
  induction jobs generalizing place with
  | nil => exact List.forall_mem_nil _
  | cons first rest ih =>
      refine List.forall_mem_cons.mpr ⟨⟨place, first, List.mem_cons_self, rfl⟩, ?_⟩
      intro job member
      obtain ⟨spot, original, among, same⟩ := ih (place + 1) job member
      exact ⟨spot, original, List.mem_cons_of_mem first among, same⟩

theorem Note.ahead_of_rounds {first later : List (Note Q A)} (opening : ∀ note ∈ first, note.resumes = false)
    (onward : ∀ note ∈ later, note.issues = false) (before : List (Note Q A)) (place : Nat) (after : List (Note Q A))
    (split : first ++ later = before ++ .resumed place :: after) (other : Nat) (query : Q) :
    .issued other query ∉ after := by
  intro member
  rcases List.append_eq_append_iff.mp split with ⟨between, _, rest⟩ | ⟨between, whole, rest⟩
  · have issued := onward (.issued other query) (by simp [rest, member])
    cases issued
  · cases between with
    | nil =>
        obtain rfl : .resumed place :: after = later := rest
        have issued := onward (.issued other query) (List.mem_cons_of_mem _ member)
        cases issued
    | cons note between =>
        obtain ⟨rfl, _⟩ := List.cons.inj rest
        have resumed := opening (.resumed place) (by simp [whole])
        cases resumed

theorem Job.run_all_noted (query : Q) (jobs : List (Job W A)) (start : Noted W Q A) :
    let ran := (Job.all (Job.notedFrom query 0 jobs)).run start
    ran.1.length = jobs.length ∧
      ∃ notes, ran.2.notes = start.notes ++ notes ∧ Note.Together query ran.1 notes := by
  intro ran
  have kept (place : Nat) (before after : Noted W Q A) (adds : Noted.Adds (fun note => note.place = place) before after)
      (within : place < jobs.length) : Noted.Adds (fun note => note.place < jobs.length) before after :=
    Noted.adds_mono adds fun note same => same ▸ within
  obtain ⟨⟨⟨notes, longer, only⟩, _⟩, each⟩ := Job.run_all_apart (Note.footing_apart query start.notes)
    (Noted.composes_adds fun note => note.place < jobs.length) (List.range' 0 jobs.length) _ start (List.nodup_range' ..)
    (fun place among before after adds => kept place before after adds (by simpa using among))
    (Note.noted_apart query 0 jobs start)
  have count : ran.1.length = jobs.length := by
    rw [← each.length_eq, List.length_range']
  have opens : ∀ job ∈ Job.notedFrom query 0 jobs, ∀ world, Poll.Opens (Noted.Adds fun note => note.resumes = false)
      (Noted.Adds fun note => note.issues = false) world (job world) := by
    intro job member world
    obtain ⟨spot, original, _, rfl⟩ := Job.mem_noted_from query 0 jobs job member
    exact Job.noted_opens spot query original world
  obtain ⟨between, ⟨first, opened, opening⟩, later, followed, onward⟩ :=
    Job.run_all_opens (Noted.composes_adds _) (Noted.composes_adds _) opens start
  have rounds : notes = first ++ later := by
    rw [opened, List.append_assoc] at followed
    exact List.append_cancel_left (longer.symm.trans followed)
  refine ⟨count, notes, longer, ?_, fun note member => count ▸ only note member, ?_⟩
  · intro place answer found
    obtain ⟨waits, ended⟩ := each_in_range 0 jobs.length ran.1 each place answer found
    rw [Nat.zero_add, longer, List.filter_append] at ended
    exact ⟨waits, List.append_cancel_left ended⟩
  · intro before place after split
    exact Note.ahead_of_rounds opening onward before place after (rounds ▸ split)

end CacheTiers
