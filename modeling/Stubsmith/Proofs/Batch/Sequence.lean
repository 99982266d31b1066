import Mathlib.Tactic.Abel
import Stubsmith.Proofs.Batch.Freezing
import Stubsmith.Proofs.Batch.Interleaving
import Stubsmith.Proofs.Batch.Progress
import Stubsmith.Proofs.Syntax.Preorder
import Stubsmith.Syntax.Parse

/-!
# The order of the stubs of a source

Stubs of different sources may come in any order, but those of one source stay in the order in which
they were made: whoever makes them passes them on one by one, and the queue keeps its order. So what
is taken from the queue is put together of what comes of the sources, as far as the batch has come.
What a synthesizer still has in its hands is the rest of one of these lists.

## Main definitions

* `State.dequeued`, `State.Runs` — the stubs that are taken from the queue on the way from one state
  to another.
* `State.parts` — what is still to be queued, source by source.

## Main results

* `State.parts_of_step` — a turn takes nothing but a stub from the front of the queue, and adds
  nothing to it but the next stub of a source.
* `State.Runs.interleaves` — what has been taken, is queued and is still to be queued is put
  together of what comes of the sources.
* `State.Follows.of_step` — a single writer writes what is taken, in the same order.
* `stubs_keep_order` — both, and what it means for a single source.
-/

namespace Stubsmith.Batch

open Stub (StubFile)

variable {σ : Type}

/-! ## Runs -/

namespace State

/-- The stubs that a turn has taken from the front of the queue. -/
def dequeued (s s' : State σ) : List StubFile := s.stubs.take (s.stubs.length - s'.stubs.length)

/-- A batch comes from one state to another, and some stubs are taken from the queue on the way. -/
inductive Runs (work : Work σ) (capacity : Nat) (s : State σ) : List StubFile → State σ → Prop
  | refl : Runs work capacity s [] s
  | step {taken : List StubFile} {s' s'' : State σ} (before : Runs work capacity s taken s')
      (next : s'.Step work capacity s'') : Runs work capacity s (taken ++ s'.dequeued s'') s''

variable {work : Work σ} {capacity : Nat} {s s' : State σ} {taken : List StubFile}

theorem Runs.reaches (runs : s.Runs work capacity taken s') : s.Reaches work capacity s' := by
  induction runs with
  | refl => exact .refl
  | step _ next ih => exact ih.step next

theorem Reaches.exists_runs (reaches : s.Reaches work capacity s') :
    ∃ taken, s.Runs work capacity taken s' := by
  induction reaches with
  | refl => exact ⟨[], .refl⟩
  | step _ next ih =>
    obtain ⟨taken, runs⟩ := ih
    exact ⟨_, runs.step next⟩

theorem dequeued_of_eq (same : s'.stubs = s.stubs) : s.dequeued s' = [] := by
  rw [dequeued, same, Nat.sub_self, List.take_zero]

theorem dequeued_of_concat {stub : StubFile} (more : s'.stubs = s.stubs ++ [stub]) :
    s.dequeued s' = [] := by
  have none : s.stubs.length - s'.stubs.length = 0 := by
    rw [more, List.length_append]
    omega
  rw [dequeued, none, List.take_zero]

theorem dequeued_of_cons {stub : StubFile} (fewer : s.stubs = stub :: s'.stubs) :
    s.dequeued s' = [stub] := by
  have one : s.stubs.length - s'.stubs.length = 1 := by
    rw [fewer, List.length_cons]
    omega
  rw [dequeued, one, fewer]
  rfl

end State

/-! ## What is still to come -/

/-- The stubs that come of a source that has been read. -/
def Work.yieldText (work : Work σ) (text : SourceText) : List StubFile :=
  match work.make text with
  | .ok stubs => stubs
  | .error _ => []

/-- The stubs that come of each of some things. -/
def each {α : Type} (come : α → List StubFile) (xs : List α) : Multiset (List StubFile) :=
  Multiset.ofList (xs.map come)

section Each

variable {α : Type} (come : α → List StubFile)

@[simp] theorem each_nil : each come [] = 0 := rfl

@[simp] theorem each_cons (x : α) (xs : List α) :
    each come (x :: xs) = {come x} + each come xs := by
  rw [each, List.map_cons, ← Multiset.cons_coe, Multiset.singleton_add, each]

@[simp] theorem each_append (xs ys : List α) :
    each come (xs ++ ys) = each come xs + each come ys := by
  rw [each, List.map_append, ← Multiset.coe_add, each, each]

end Each

/-- What a worker has in its hands, item by item. -/
def Worker.parts {α β γ : Type} (ofItem : α → γ) (ofResults : List β → Multiset γ) :
    Worker α β → Multiset γ
  | .passing results _ => ofResults results
  | .working item _ => {ofItem item}
  | .ended _ | .joined => 0

/-- Some stubs of one source, unless none are left. -/
def remainder : List StubFile → Multiset (List StubFile)
  | [] => 0
  | stub :: stubs => {stub :: stubs}

/-! ## Turns -/

/-- The item that a worker has taken, if it has one. -/
def Worker.inHand {α β : Type} : Worker α β → List α
  | .working item _ => [item]
  | _ => []

namespace Worker.Turn

variable {α β ω : Type} {capacity : Nat} {closed : Bool} {tally : Tally}

theorem harm_of_running {w : Worker α β} (running : w.hasEnded = false) : w.harm = 0 := by
  cases w with
  | ended => cases running
  | _ => rfl

/-- A turn takes nothing from the queue before a worker but its first item. -/
theorem input_cases {call : α → ω → Except BatchError (List β) × ω} {w w' : Worker α β}
    {d d' : Worker.Desk α β ω} (turn : Turn capacity closed tally call w d w' d') :
    d'.input = d.input ∨ ∃ item, d.input = item :: d'.input := by
  cases turn with
  | @take item => exact .inr ⟨item, rfl⟩
  | _ => exact .inl rfl

/-- A turn adds nothing to the queue after a worker but one result. -/
theorem output_cases {call : α → ω → Except BatchError (List β) × ω} {w w' : Worker α β}
    {d d' : Worker.Desk α β ω} (turn : Turn capacity closed tally call w d w' d') :
    d'.output = d.output ∨ ∃ result, d'.output = d.output ++ [result] := by
  cases turn with
  | @pass result => exact .inr ⟨result, rfl⟩
  | _ => exact .inl rfl

/-- Of the results of a worker comes what came of its items, and they are passed on as a whole. -/
theorem interleaves {call : α → ω → Except BatchError (List β) × ω} {w w' : Worker α β}
    {d d' : Worker.Desk α β ω} (turn : Turn capacity closed tally call w d w' d')
    (ofItem : α → List StubFile) (ofResult : β → List StubFile)
    (others : Multiset (List StubFile)) (later : List StubFile)
    (returns : ∀ {a results v'}, call a d.world = (.ok results, v') →
      each ofResult results = {ofItem a})
    (fails : ∀ {a e v'}, call a d.world = (.error e, v') → ofItem a = [])
    (after : Interleaves (w'.parts ofItem (each ofResult) + each ofItem d'.input +
      each ofResult d'.output + others) later) :
    Interleaves (w.parts ofItem (each ofResult) + each ofItem d.input +
      each ofResult d.output + others) later := by
  cases turn with
  | pass room =>
    convert after using 1
    simp only [Worker.parts, each_append, each_cons, each_nil]
    abel
  | finish returned =>
    rw [Worker.parts, ← returns returned]
    exact after
  | fail refused =>
    rw [Worker.parts, fails refused]
    convert after.drop using 1
    rw [← Multiset.singleton_add, Worker.parts]
    abel
  | take =>
    convert after using 1
    simp only [Worker.parts, each_cons, each_nil]
    abel
  | quit drained => exact after

/-- A synthesizer passes on the stubs of a source one by one. -/
theorem interleaves_stubs {call : α → ω → Except BatchError (List StubFile) × ω}
    {w w' : Worker α StubFile} {d d' : Worker.Desk α StubFile ω}
    (turn : Turn capacity closed tally call w d w' d') (ofItem : α → List StubFile)
    (others : Multiset (List StubFile)) (later : List StubFile)
    (returns : ∀ {a results v'}, call a d.world = (.ok results, v') → ofItem a = results)
    (fails : ∀ {a e v'}, call a d.world = (.error e, v') → ofItem a = [])
    (after : Interleaves (w'.parts ofItem remainder + each ofItem d'.input + others) later) :
    d'.output = d.output ∧
        Interleaves (w.parts ofItem remainder + each ofItem d.input + others) later ∨
      ∃ stub, d'.output = d.output ++ [stub] ∧
        Interleaves (w.parts ofItem remainder + each ofItem d.input + others) (stub :: later) := by
  cases turn with
  | @pass stub stubs _ _ _ _ room =>
    refine .inr ⟨stub, rfl, ?_⟩
    rw [Worker.parts, remainder, add_assoc, Multiset.singleton_add]
    rw [Worker.parts, add_assoc] at after
    -- The last stub of a source leaves nothing, any other one the stubs behind it.
    cases stubs with
    | nil =>
      rw [remainder, zero_add] at after
      exact after.single stub
    | cons next stubs =>
      rw [remainder, Multiset.singleton_add] at after
      exact after.cons
  | @finish a results _ _ _ _ _ returned =>
    refine .inl ⟨rfl, ?_⟩
    rw [Worker.parts, returns returned]
    rw [Worker.parts] at after
    cases results with
    | nil =>
      rw [remainder, zero_add] at after
      rw [add_assoc, Multiset.singleton_add]
      exact after.drop
    | cons stub stubs => exact after
  | fail refused =>
    refine .inl ⟨rfl, ?_⟩
    rw [Worker.parts, zero_add] at after
    rw [Worker.parts, fails refused, add_assoc, Multiset.singleton_add]
    exact after.drop
  | take =>
    refine .inl ⟨rfl, ?_⟩
    convert after using 1
    simp only [Worker.parts, remainder, each_cons]
    abel
  | quit drained => exact .inl ⟨rfl, after⟩

/-- A writer that does not fail brings stubs from the queue through its hands into the world, and
nothing gets out of order. -/
theorem written_append {work : Work σ} {w w' : Worker StubFile Empty}
    {d d' : Worker.Desk StubFile Empty (σ × List StubFile)}
    (turn : Turn capacity closed tally (State.storeCall work) w d w' d')
    (unharmed : w'.harm = 0) :
    d'.world.2 ++ w'.inHand ++ d'.input = d.world.2 ++ w.inHand ++ d.input := by
  cases turn with
  | @pass result => exact result.elim
  | finish returned =>
    unfold State.storeCall at returned
    split at returned <;> cases returned
    simp [Worker.inHand]
  | fail refused => cases unharmed
  | take => simp [Worker.inHand]
  | quit drained => rfl

end Worker.Turn

/-- One of some workers is replaced and the others keep what they have. -/
theorem exists_others {α β γ : Type} (f : Worker α β → Multiset γ) {ws : List (Worker α β)}
    {number : Nat} {w : Worker α β} (found : ws[number]? = some w) :
    ∃ others, (ws.map f).sum = f w + others ∧
      ∀ w', ((ws.set number w').map f).sum = f w' + others := by
  induction ws generalizing number with
  | nil => simp at found
  | cons v ws ih =>
    cases number with
    | zero =>
      obtain rfl : v = w := by simpa using found
      exact ⟨(ws.map f).sum, by simp, fun w' => by simp⟩
    | succ number =>
      obtain ⟨others, whole, replaced⟩ := ih (by simpa using found)
      refine ⟨f v + others, ?_, fun w' => ?_⟩
      · rw [List.map_cons, List.sum_cons, whole]
        abel
      · rw [List.set_cons_succ, List.map_cons, List.sum_cons, replaced]
        abel

namespace State

/-- What is still to be put into the queue of stubs, source by source, given what reading a source
comes to. -/
def parts (work : Work σ) (fetched : String → Except BatchError SourceText) (s : State σ) :
    Multiset (List StubFile) :=
  s.submitter.parts Empty.elim (each (work.yield fetched)) + each (work.yield fetched) s.sources +
    (s.readers.map (Worker.parts (work.yield fetched) (each work.yieldText))).sum +
    each work.yieldText s.texts + (s.synthesizers.map (Worker.parts work.yieldText remainder)).sum

variable {work : Work σ} {fetched : String → Except BatchError SourceText} {capacity : Nat}
  {s s' : State σ}

/-- What is put together of what is left after a turn can be put together of what is left before,
together with the stub that the turn has put into the queue. -/
theorem parts_of_step (reads : ∀ source world, work.fetch source world = fetched source)
    (step : s.Step work capacity s') {later : List StubFile}
    (after : Interleaves (s'.parts work fetched) later) :
    ∃ before, Interleaves (s.parts work fetched) before ∧
      s.stubs ++ before = s.dequeued s' ++ (s'.stubs ++ later) := by
  have aside : s'.stubs = s.stubs → ∀ before,
      s.stubs ++ before = s.dequeued s' ++ (s'.stubs ++ before) := by
    intro same before
    rw [dequeued_of_eq same, same, List.nil_append]
  cases step.advance.2 with
  | @submitter w' d' turn =>
    have input : d'.input = [] := List.eq_nil_of_length_eq_zero (length_empty d'.input)
    refine ⟨later, ?_, aside rfl later⟩
    have before := turn.interleaves Empty.elim (work.yield fetched)
      ((s.readers.map (Worker.parts (work.yield fetched) (each work.yieldText))).sum +
        each work.yieldText s.texts +
        (s.synthesizers.map (Worker.parts work.yieldText remainder)).sum) later
      (fun {a} => a.elim) (fun {a} => a.elim) (by
        simpa only [parts, input, each_nil, add_zero, add_assoc] using after)
    simpa only [parts, each_nil, add_zero, add_assoc] using before
  | @reader number w w' d' found turn =>
    obtain ⟨others, whole, replaced⟩ :=
      exists_others (Worker.parts (work.yield fetched) (each work.yieldText)) found
    refine ⟨later, ?_, aside rfl later⟩
    have before := turn.interleaves (work.yield fetched) work.yieldText
      (s.submitter.parts Empty.elim (each (work.yield fetched)) + others +
        (s.synthesizers.map (Worker.parts work.yieldText remainder)).sum) later
      (by
        intro source texts world called
        cases outcome : work.fetch source s.world <;> simp [readCall, outcome, Except.map] at called
        obtain ⟨rfl, rfl⟩ := called
        rw [each_cons, each_nil, add_zero, Work.yield, ← reads source s.world, outcome]
        rfl)
      (by
        intro source failure world called
        cases outcome : work.fetch source s.world <;> simp [readCall, outcome, Except.map] at called
        rw [Work.yield, ← reads source s.world, outcome])
      (by
        convert after using 1
        simp only [parts, replaced]
        abel)
    convert before using 1
    simp only [parts, whole]
    abel
  | @synthesizer number w w' d' found turn =>
    obtain ⟨others, whole, replaced⟩ :=
      exists_others (Worker.parts work.yieldText remainder) found
    have before := turn.interleaves_stubs work.yieldText
      (s.submitter.parts Empty.elim (each (work.yield fetched)) +
        each (work.yield fetched) s.sources +
        (s.readers.map (Worker.parts (work.yield fetched) (each work.yieldText))).sum + others)
      later
      (by
        intro text stubs world called
        have made : work.make text = .ok stubs := congrArg Prod.fst called
        rw [Work.yieldText, made])
      (by
        intro text failure world called
        have refused : work.make text = .error failure := congrArg Prod.fst called
        rw [Work.yieldText, refused])
      (by
        convert after using 1
        simp only [parts, replaced]
        abel)
    have same : w.parts work.yieldText remainder + each work.yieldText s.texts +
        (s.submitter.parts Empty.elim (each (work.yield fetched)) +
          each (work.yield fetched) s.sources +
          (s.readers.map (Worker.parts (work.yield fetched) (each work.yieldText))).sum + others) =
        s.parts work fetched := by
      simp only [parts, whole]
      abel
    rw [same] at before
    rcases before with ⟨quiet, before⟩ | ⟨stub, passed, before⟩
    · exact ⟨later, before, aside quiet later⟩
    · refine ⟨stub :: later, before, ?_⟩
      have queued : (d'.output ++ later) = s.stubs ++ (stub :: later) := by
        rw [passed, List.append_assoc]
        rfl
      rw [dequeued_of_concat passed, List.nil_append]
      exact queued.symm
  | @writer number w w' d' found turn =>
    refine ⟨later, after, ?_⟩
    rcases turn.input_cases with same | ⟨stub, fewer⟩
    · exact aside same later
    · rw [dequeued_of_cons fewer]
      exact congrArg (· ++ later) fewer
  | joinSubmitter found =>
    refine ⟨later, ?_, aside rfl later⟩
    simpa only [parts, found, Worker.parts, notice] using after
  | joinReader found =>
    obtain ⟨others, whole, replaced⟩ :=
      exists_others (Worker.parts (work.yield fetched) (each work.yieldText)) found
    refine ⟨later, ?_, aside rfl later⟩
    simpa only [parts, whole, replaced, Worker.parts, notice] using after
  | joinSynthesizer found =>
    obtain ⟨others, whole, replaced⟩ :=
      exists_others (Worker.parts work.yieldText remainder) found
    refine ⟨later, ?_, aside rfl later⟩
    simpa only [parts, whole, replaced, Worker.parts, notice] using after
  | joinWriter found => exact ⟨later, after, aside rfl later⟩

theorem sum_parts_eq_zero {α β : Type} (f : Worker α β → Multiset (List StubFile))
    (ws : List (Worker α β)) (nothing : ∀ w ∈ ws, f w = 0) : (ws.map f).sum = 0 := by
  refine List.sum_eq_zero fun part mem => ?_
  obtain ⟨w, hw, rfl⟩ := List.mem_map.mp mem
  exact nothing w hw

/-- At the start everything is still to come. -/
theorem parts_start (work : Work σ) (fetched : String → Except BatchError SourceText)
    (config : Config) (sources : List String) (world : σ) :
    (start config sources world).parts work fetched = each (work.yield fetched) sources := by
  have readers := sum_parts_eq_zero (Worker.parts (work.yield fetched) (each work.yieldText))
    (List.replicate config.readers Worker.idle) fun w hw => List.eq_of_mem_replicate hw ▸ rfl
  have synthesizers := sum_parts_eq_zero (Worker.parts work.yieldText remainder)
    (List.replicate config.synthesizers Worker.idle) fun w hw => List.eq_of_mem_replicate hw ▸ rfl
  simp only [parts, start, Worker.parts, each_nil, add_zero, readers, synthesizers]

/-- What has been taken from the queue, what is in it and what is still to come are put together of
what comes of the sources. -/
theorem Runs.interleaves {config : Config} {sources : List String} {world : σ}
    {taken : List StubFile} (reads : ∀ source world, work.fetch source world = fetched source)
    (runs : (start config sources world).Runs work capacity taken s) {later : List StubFile}
    (after : Interleaves (s.parts work fetched) later) :
    Interleaves (each (work.yield fetched) sources) (taken ++ (s.stubs ++ later)) := by
  induction runs generalizing later with
  | refl => exact parts_start work fetched config sources world ▸ after
  | step before next ih =>
    obtain ⟨earlier, whole, same⟩ := parts_of_step reads next after
    rw [List.append_assoc, ← same]
    exact ih whole

/-- Where nothing is under way, nothing is still to come. -/
theorem Orderly.parts_of_allJoined (orderly : s.Orderly) (joined : s.allJoined = true) :
    s.parts work fetched = 0 := by
  obtain ⟨noSources, noTexts, _⟩ := orderly.queues_of_allJoined joined
  have stage : ∀ {α β : Type} {ws : List (Worker α β)} (ofItem : α → List StubFile)
      (ofResults : List β → Multiset (List StubFile)), ws.all Worker.isJoined = true →
      (ws.map (Worker.parts ofItem ofResults)).sum = 0 := by
    intro α β ws ofItem ofResults all
    refine sum_parts_eq_zero _ _ fun w hw => ?_
    have hjoined := List.all_eq_true.mp all w hw
    cases w with
    | joined => rfl
    | _ => cases hjoined
  simp only [allJoined, Bool.and_eq_true] at joined
  obtain ⟨⟨⟨hsubmitter, hreaders⟩, hsynthesizers⟩, _⟩ := joined
  have submitter : s.submitter.parts Empty.elim (each (work.yield fetched)) = 0 := by
    cases found : s.submitter with
    | joined => rfl
    | _ => rw [found] at hsubmitter; cases hsubmitter
  rw [parts, submitter, noSources, noTexts, stage _ _ hreaders, stage _ _ hsynthesizers]
  rfl

/-! ## A single writer -/

/-- There is one writer. As long as it has not failed, it has written all that has been taken from
the queue, but for the stub that it has in its hands. -/
def Follows (s : State σ) (taken : List StubFile) : Prop :=
  ∃ w, s.writers = [w] ∧ (s.failure = none → w.harm = 0 → s.written ++ w.inHand = taken)

variable {taken : List StubFile}

/-- A single writer writes what is taken, in the same order. -/
theorem Follows.of_step (follows : s.Follows taken) (step : s.Step work capacity s') :
    s'.Follows (taken ++ s.dequeued s') := by
  obtain ⟨w, writers, written⟩ := follows
  obtain ⟨none_yet, advance⟩ := step.advance
  have aside : s.dequeued s' = [] → s'.Follows taken → s'.Follows (taken ++ s.dequeued s') := by
    intro nothing still
    rw [nothing, List.append_nil]
    exact still
  have still : ∀ {t : State σ}, t.writers = s.writers → t.written = s.written → t.Follows taken :=
    fun same same' =>
      ⟨w, same.trans writers, fun _ unharmed => same' ▸ written none_yet unharmed⟩
  cases advance with
  | submitter turn => exact aside (dequeued_of_eq rfl) (still rfl rfl)
  | reader found turn => exact aside (dequeued_of_eq rfl) (still rfl rfl)
  | synthesizer found turn =>
    rcases turn.output_cases with same | ⟨stub, more⟩
    · exact aside (dequeued_of_eq same) (still rfl rfl)
    · exact aside (dequeued_of_concat more) (still rfl rfl)
  | @writer number v w' d' found turn =>
    obtain ⟨rfl, rfl⟩ : number = 0 ∧ v = w := by
      cases number <;> simp_all
    refine ⟨w', by rw [writers]; rfl, fun _ unharmed => ?_⟩
    have queue : s.stubs = s.dequeued { s with
        writers := s.writers.set 0 w', stubs := d'.input, world := d'.world.1
        written := d'.world.2 } ++ d'.input := by
      rcases turn.input_cases with same | ⟨stub, fewer⟩
      · rw [dequeued_of_eq same]
        exact same.symm
      · rw [dequeued_of_cons fewer]
        exact fewer
    have moved := turn.written_append unharmed
    have unharmed' : v.harm = 0 := Worker.Turn.harm_of_running turn.hasEnded_eq_false
    dsimp only at moved
    rw [written none_yet unharmed', queue, ← List.append_assoc] at moved
    exact List.append_cancel_right moved
  | joinSubmitter found => exact aside (dequeued_of_eq rfl) (still rfl rfl)
  | joinReader found => exact aside (dequeued_of_eq rfl) (still rfl rfl)
  | joinSynthesizer found => exact aside (dequeued_of_eq rfl) (still rfl rfl)
  | @joinWriter number result found =>
    obtain ⟨rfl, rfl⟩ : number = 0 ∧ .ended result = w := by
      cases number <;> simp_all
    refine aside (dequeued_of_eq rfl) ⟨.joined, by simp [writers], fun none_still _ => ?_⟩
    cases result with
    | error failure => cases none_still
    | ok count => exact written none_yet rfl

/-- When it has come to its end, it has written all of it. -/
theorem Follows.written_eq (follows : s.Follows taken) (none_yet : s.failure = none)
    (joined : s.allJoined = true) : s.written = taken := by
  obtain ⟨w, writers, written⟩ := follows
  simp only [allJoined, Bool.and_eq_true, writers, List.all_cons, List.all_nil, and_true] at joined
  cases w with
  | joined => simpa [Worker.inHand] using written none_yet rfl
  | _ => cases joined.2

end State

/-! ## Batches -/

variable {work : Work σ} {asked : Config} {processors : Nat} {sources : List String} {world : σ}
  {s : State σ} {taken : List StubFile}

/-- A run of a batch with steady sources is one of reading them as they were at its start. -/
theorem ReadsSteadily.runs_frozen (steadily : ReadsSteadily work asked processors sources world)
    (runs : (State.start (asked.normalized processors) sources world).Runs work
      (asked.normalized processors).queueCapacity taken s) :
    (State.start (asked.normalized processors) sources world).Runs (work.frozen world)
      (asked.normalized processors).queueCapacity taken s := by
  induction runs with
  | refl => exact .refl
  | step before next ih => exact ih.step (steadily.step_frozen before.reaches next)

/-- A batch that was asked for at most one writer has one. -/
theorem follows_of_runs (single : asked.writers ≤ 1)
    (runs : (State.start (asked.normalized processors) sources world).Runs work
      (asked.normalized processors).queueCapacity taken s) : s.Follows taken := by
  have one : max asked.writers 1 = 1 := by omega
  induction runs with
  | refl => exact ⟨.idle, by simp [State.start, Config.normalized, one], fun _ _ => rfl⟩
  | step _ next ih => exact ih.of_step next

section Steady

variable (steadily : ReadsSteadily work asked processors sources world)
  (runs : (State.start (asked.normalized processors) sources world).Runs work
    (asked.normalized processors).queueCapacity taken s)

include steadily runs

/-- What has been taken from the queue is as much of the whole as the batch has come to. -/
theorem exists_interleaves_of_runs :
    ∃ later, Interleaves (each (work.yield (work.fetch · world)) sources) (taken ++ later) := by
  obtain ⟨later, whole⟩ := exists_interleaves
    (s.parts (work.frozen world) (work.fetch · world))
  have interleaves := (steadily.runs_frozen runs).interleaves (fun _ _ => rfl) whole
  exact ⟨s.stubs ++ later, interleaves⟩

/-- When the batch has succeeded, it is the whole. -/
theorem interleaves_of_outcome_ok {report : Report} (finished : s.isOver = true)
    (ok : s.outcome = .ok report) :
    Interleaves (each (work.yield (work.fetch · world)) sources) taken := by
  obtain ⟨none_yet, joined, _⟩ := State.joined_of_outcome_ok finished ok
  have reachable : Reachable work asked processors sources world s := runs.reaches
  have orderly := reachable.orderly none_yet
  have nothing : Interleaves (s.parts (work.frozen world) (work.fetch · world)) [] := by
    rw [orderly.parts_of_allJoined joined]
    exact .nil
  have interleaves := (steadily.runs_frozen runs).interleaves (fun _ _ => rfl) nothing
  rw [(orderly.queues_of_allJoined joined).2.2, List.append_nil, List.append_nil] at interleaves
  exact interleaves

end Steady

section Success

variable (steadily : ReadsSteadily work asked processors sources world)
  (single : asked.writers ≤ 1) (reachable : Reachable work asked processors sources world s)
  (finished : s.isOver = true) {report : Report} (ok : s.outcome = .ok report)

include steadily single reachable finished ok

/-- With a single writer the stubs are written as they are taken. -/
theorem Reachable.interleaves_written :
    Interleaves (each (work.yield (work.fetch · world)) sources) s.written := by
  obtain ⟨taken, runs⟩ := State.Reaches.exists_runs reachable
  obtain ⟨none_yet, joined, _⟩ := State.joined_of_outcome_ok finished ok
  rw [(follows_of_runs single runs).written_eq none_yet joined]
  exact interleaves_of_outcome_ok steadily runs finished ok

/-- Of a single source the stubs are written in the order in which they are made. -/
theorem Reachable.written_eq_yield {source : String} (alone : sources = [source]) :
    s.written = work.yield (work.fetch · world) source := by
  have interleaves := reachable.interleaves_written steadily single finished ok
  rw [alone, each_cons, each_nil, add_zero] at interleaves
  exact interleaves_singleton_iff.mp interleaves

end Success

/-- The classes of a model are those that its text declares, in pre-order. -/
theorem classes_eq_of_parse {text : String} {model : SourceModel}
    (parsed : Syntax.parse text = .ok model) :
    model.classes = (Syntax.Tree.ofText text.toList).declaredClasses := by
  unfold Syntax.parse at parsed
  dsimp only at parsed
  split at parsed
  · cases parsed
  · cases parsed
    unfold SourceModel.ofTree
    rw [Syntax.Walk.visit_start]
    exact Syntax.Walk.classes_foldl_see _

/-- What comes of a source, where its text is parsed and made into stubs, are the stubs of the
classes that it declares, in pre-order. -/
theorem Work.yield_eq_declared {source text : String} {model : SourceModel}
    (read : work.read source world = .returned text)
    (parses : work.parse text = .ofExcept (Syntax.parse text))
    (synthesizes : work.synthesize model = .ok (Stub.stubFiles model))
    (parsed : Syntax.parse text = .ok model) :
    work.yield (work.fetch · world) source =
      (Syntax.Tree.ofText text.toList).declaredClasses.map (Stub.stubFile model.usings) := by
  rw [parsed] at parses
  simp only [Work.yield, Work.fetch, read, Work.make, parses, Call.ofExcept, synthesizes]
  rw [Stub.stubFiles, classes_eq_of_parse parsed]

/-- However a batch goes, the stubs that are taken from its queue are put together of those of its
sources, the ones of each source in the order in which they were made: as far as it has come, and
all of them when it has succeeded. With a single writer this is also the order in which they are
written. Those of a single source are then written as they were made, in the order of the classes
in its text. -/
theorem stubs_keep_order (steadily : ReadsSteadily work asked processors sources world) :
    let start := State.start (asked.normalized processors) sources world
    let capacity := (asked.normalized processors).queueCapacity
    let parts := Multiset.ofList (sources.map (work.yield (work.fetch · world)))
    (∀ s, start.Reaches work capacity s → ∃ taken, start.Runs work capacity taken s) ∧
    (∀ taken s, start.Runs work capacity taken s →
      (∃ later, Interleaves parts (taken ++ later)) ∧
      ∀ report, s.isOver = true → s.outcome = .ok report → Interleaves parts taken) ∧
    (asked.writers ≤ 1 → ∀ s report, start.Reaches work capacity s → s.isOver = true →
      s.outcome = .ok report →
      Interleaves parts s.written ∧
      ∀ source, sources = [source] →
        s.written = work.yield (work.fetch · world) source ∧
        ∀ text model, work.read source world = .returned text →
          work.parse text = .ofExcept (Syntax.parse text) →
          work.synthesize model = .ok (Stub.stubFiles model) → Syntax.parse text = .ok model →
          s.written =
            (Syntax.Tree.ofText text.toList).declaredClasses.map (Stub.stubFile model.usings)) := by
  refine ⟨fun s reaches => reaches.exists_runs, ?_, ?_⟩
  · intro taken s runs
    exact ⟨exists_interleaves_of_runs steadily runs,
      fun report finished ok => interleaves_of_outcome_ok steadily runs finished ok⟩
  · intro single s report reachable finished ok
    refine ⟨Reachable.interleaves_written steadily single reachable finished ok, ?_⟩
    intro source alone
    have written := Reachable.written_eq_yield steadily single reachable finished ok alone
    refine ⟨written, fun text model read parses synthesizes parsed => ?_⟩
    rw [written, Work.yield_eq_declared read parses synthesizes parsed]

/-- The work of a batch all of whose sources have the same text. -/
def Work.ofText (text : String) : Work (List String) where
  read _ _ := .returned text
  parse text := .ofExcept (Syntax.parse text)
  synthesize model := .ok (Stub.stubFiles model)
  write stub names := (.returned (), names ++ [stub.name])

theorem Work.ofText_steady (text : String) : (Work.ofText text).Steady where
  read _ _ _ := rfl
  write _ _ _ := rfl

/-- Nothing goes wrong in such a batch if the text can be parsed. -/
theorem Work.ofText_outcome {text : String} {model : SourceModel}
    (parsed : Syntax.parse text = .ok model) {s : State (List String)}
    (reachable : Reachable (Work.ofText text) asked processors sources [] s) :
    s.outcome = .ok s.report := by
  let c : Contract (List String) :=
    ⟨fun _ => True, (·.text = text), fun _ => True, fun _ => False, fun _ _ => True⟩
  have kept : c.KeptBy (Work.ofText text) := by
    constructor
    · rintro source world written read _ _ fetched
      cases fetched
      rfl
    · intro source world written failure _ _ refused
      cases refused
    · intro read stubs _ _ stub _
      trivial
    · intro read failure same refused
      have text : read.text = text := same
      simp [Work.make, Work.ofText, text, parsed, Call.ofExcept] at refused
    · intro stub world written after _ _ _
      trivial
    · intro stub world written failure after _ _ refused
      cases refused
  have governs : c.Governs (Work.ofText text) ((Work.ofText text).fetch · []) sources [] :=
    ⟨kept, fun _ _ => trivial, trivial, fun _ _ fetched => fetched⟩
  exact reachable.outcome_eq_ok governs fun _ => id

/-- The stubs of two classes are written one after the other. -/
theorem stubs_keep_order_twoClasses :
    let text := "class B; class A;"
    let s := execute (Work.ofText text) ⟨2, 3, 0, 1⟩ 4 ["a.cs"] []
    s.outcome = .ok s.report ∧
      s.written = (Syntax.Tree.ofText text.toList).declaredClasses.map (Stub.stubFile []) ∧
      s.written.map (·.name) = ["BTests.cs", "ATests.cs"] := by
  intro text s
  have parsed : Syntax.parse text =
      .ok ⟨[], [⟨"", "B", .parameterless, []⟩, ⟨"", "A", .parameterless, []⟩]⟩ := by
    decide +kernel
  have reachable : Reachable (Work.ofText text) ⟨2, 3, 0, 1⟩ 4 ["a.cs"] [] s :=
    execute_reachable ..
  have ok := Work.ofText_outcome parsed reachable
  have steadily := (Work.ofText_steady text).readsSteadily ⟨2, 3, 0, 1⟩ 4 ["a.cs"] []
  obtain ⟨_, _, order⟩ := stubs_keep_order steadily
  obtain ⟨_, alone⟩ := order (by decide) s s.report reachable (execute_isOver ..) ok
  obtain ⟨_, written⟩ := alone "a.cs" rfl
  have declared := written text _ rfl rfl rfl parsed
  refine ⟨ok, declared, ?_⟩
  rw [declared, ← classes_eq_of_parse parsed]
  decide +kernel

end Stubsmith.Batch
