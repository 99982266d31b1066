import Stubsmith.Syntax.Repair.Race

/-!
# Where repairs are made

A reading of a malformed text makes up no place. What it sets aside begins and ends where tokens
do, and a token is supplied where another one ends. So if all tokens, and the text itself, begin and
end in places of some kind, then the fault that is reported lies in such a place, too.

## Main definitions

* `Token.LiesIn`, `Reading.LiesIn`, `Race.LiesIn` — all bytes that are kept are places of a kind.

## Main results

* `Race.LiesIn.step` — going on by one token keeps to such places.
* `Chart.LiesIn.fault` — the first fault lies in one.
-/

namespace Stubsmith.Syntax

variable {place : Nat → Prop} {text : Layout}

/-! ## What lies in places of a kind -/

/-- A token begins and ends in places of a kind. -/
def Token.LiesIn (place : Nat → Prop) (t : Token) : Prop := place t.start ∧ place t.stop

/-- The tokens that have been read do. -/
def Chart.LiesIn (place : Nat → Prop) (chart : Chart) : Prop :=
  ∀ column ∈ chart, ∀ token ∈ column.last, token.LiesIn place

/-- The tokens set aside so far do. -/
def Region.LiesIn (place : Nat → Prop) (region : Region) : Prop :=
  ∀ skipped ∈ region.skipped, place skipped.start ∧ place skipped.stop

/-- All that a reading keeps does. -/
structure Reading.LiesIn (place : Nat → Prop) (r : Reading) : Prop where
  chart : Chart.LiesIn place r.chart
  stretches : ∀ stretch ∈ r.stretches, place stretch.start ∧ place stretch.stop
  fault : ∀ fault ∈ r.fault, place fault.start
  region : ∀ region ∈ r.region, region.LiesIn place
  ahead : ∀ token ∈ r.ahead, token.LiesIn place

/-- The fault of an outcome does. -/
def Outcome.LiesIn (place : Nat → Prop) (outcome : Outcome) : Prop := place outcome.fault.start

/-- The two ends of a text do. -/
structure Layout.LiesIn (place : Nat → Prop) (text : Layout) : Prop where
  start : place 0
  stop : place text.size

theorem Token.LiesIn.unfitting {t : Token} (lies : t.LiesIn place) :
    t.unfitting.LiesIn place := by
  unfold Token.unfitting
  split <;> exact lies

/-- A token that is supplied lies where it is asked for. -/
theorem Token.LiesIn.of_emptyToken? {start : Nat} {sym : Sym} {token : Token} {spelling : String}
    (here : place start) (made : emptyToken? start sym = some (token, spelling)) :
    token.LiesIn place := by
  unfold emptyToken? at made
  -- A token without a text ends where it begins.
  split at made <;> cases made
  all_goals exact ⟨here, here⟩

namespace Chart.LiesIn

variable {chart : Chart}

theorem start : Chart.LiesIn place Chart.start :=
  List.forall_mem_singleton.mpr fun _ => nofun

theorem push? {token : Token} {longer : Chart} (lies : Chart.LiesIn place chart)
    (next : token.LiesIn place) (found : chart.push? token = some longer) :
    Chart.LiesIn place longer := by
  unfold Chart.push? at found
  split at found
  · cases found
  · split at found
    · cases found
    · cases found
      exact List.forall_mem_cons.mpr ⟨by rintro _ ⟨⟩; exact next, lies⟩

/-- What has been read, and what is left over, lies where the tokens do. -/
theorem read {tokens : List Token} (lies : Chart.LiesIn place chart)
    (all : ∀ token ∈ tokens, token.LiesIn place) :
    Chart.LiesIn place (chart.read tokens).1 ∧
      ∀ token ∈ (chart.read tokens).2, token.LiesIn place := by
  induction tokens generalizing chart with
  | nil => exact ⟨lies, all⟩
  | cons token tokens ih =>
    obtain ⟨one, others⟩ := List.forall_mem_cons.mp all
    rw [Chart.read]
    split
    · next longer pushed => exact ih (lies.push? one pushed) others
    · exact ⟨lies, all⟩

theorem backTo (lies : Chart.LiesIn place chart) (index : Nat) :
    Chart.LiesIn place (chart.backTo index) :=
  fun column mem => lies column (List.mem_of_mem_drop mem)

/-- A token that is supplied lies where the one before it ends. -/
theorem supplied? {next : Option Token} {token : Token} {spelling : String}
    (lies : Chart.LiesIn place chart) (zero : place 0)
    (found : chart.supplied? next = some (token, spelling)) : token.LiesIn place := by
  obtain ⟨latest, head, found⟩ := Option.bind_eq_some_iff.mp found
  obtain ⟨sym, -, found⟩ := List.exists_of_findSome?_eq_some found
  obtain ⟨⟨empty, _⟩, made, found⟩ := Option.bind_eq_some_iff.mp found
  have here : place ((latest.last.map (·.stop)).getD 0) := by
    cases read : latest.last with
    | none => exact zero
    | some last => exact (lies latest (List.mem_of_head? head) last read).2
  dsimp only at found
  split at found
  · cases found
    exact Token.LiesIn.of_emptyToken? here made
  · cases found

end Chart.LiesIn

/-! ## Readings -/

namespace Reading.LiesIn

variable {r : Reading}

theorem start {chart : Chart} (lies : Chart.LiesIn place chart) :
    (Reading.start chart).LiesIn place :=
  ⟨lies, List.forall_mem_nil _, nofun, nofun, nofun⟩

theorem stopByte (lies : r.LiesIn place) (zero : place 0) {column : Column}
    (last : ∀ token ∈ column.last, token.LiesIn place) : place (r.stopByte column) := by
  unfold Reading.stopByte
  split
  · next stretch found => exact (lies.stretches stretch (List.mem_of_find?_eq_some found)).2
  · cases read : column.last with
    | none => exact zero
    | some token => exact (last token read).2

theorem position (lies : r.LiesIn place) (zero : place 0) : place r.position := by
  unfold Reading.position
  split
  · next skipped found =>
    obtain ⟨region, begun, some⟩ := Option.bind_eq_some_iff.mp found
    exact (lies.region region begun skipped some).2
  · cases read : r.chart with
    | nil => exact zero
    | cons column earlier =>
      exact lies.stopByte zero (lies.chart column (read ▸ List.mem_cons_self))

theorem withFault (lies : r.LiesIn place) {fault : Fault} (here : place fault.start) :
    (r.withFault fault).LiesIn place := by
  have shown : ∀ f ∈ some fault, place f.start := by rintro _ ⟨⟩; exact here
  unfold Reading.withFault
  split
  · split
    · exact lies
    · exact { lies with fault := shown }
  · exact { lies with fault := shown }

theorem outcome (lies : r.LiesIn place) (zero : place 0) : r.outcome.LiesIn place := by
  rw [Outcome.LiesIn, Reading.outcome]
  cases found : r.fault with
  | none => exact zero
  | some fault => exact lies.fault fault found

theorem read? {longer : Reading} {token : Token} (lies : r.LiesIn place)
    (next : token.LiesIn place) (found : r.read? token = some longer) : longer.LiesIn place := by
  obtain ⟨chart, pushed, rfl⟩ := Option.map_eq_some_iff.mp found
  exact { lies with chart := lies.chart.push? next pushed }

/-- What is set aside begins at something set aside before, at a token, or where it ends. -/
theorem setAside (lies : r.LiesIn place) {region : Region} (inside : region.LiesIn place)
    (stop : Stop) {stopByte : Nat} (here : place stopByte) :
    (r.setAside text region stop stopByte).LiesIn place := by
  unfold Reading.setAside
  extract_lets dropped supplied before first start skippedWeight kept weight price
  have begins : place start := by
    have all : ∀ byte ∈ first, place byte := by
      intro byte found
      -- The stretch that grows, else the token behind the place, else what was skipped.
      rcases Option.or_eq_some_iff.mp found with found | ⟨-, found⟩
      · obtain ⟨stretch, set, rfl⟩ := Option.map_eq_some_iff.mp found
        exact (lies.stretches stretch (List.mem_of_find?_eq_some set)).1
      · rcases Option.or_eq_some_iff.mp found with found | ⟨-, found⟩
        · obtain ⟨token, read, rfl⟩ := Option.map_eq_some_iff.mp found
          obtain ⟨column, last, read⟩ := Option.bind_eq_some_iff.mp read
          have mem := List.mem_of_mem_take (List.mem_of_getLast? last)
          exact (lies.chart column mem token read).1
        · obtain ⟨skipped, set, rfl⟩ := Option.map_eq_some_iff.mp found
          exact (inside skipped set).1
    change place (first.getD stopByte)
    cases found : first with
    | none => exact here
    | some byte => exact all byte found
  refine withFault ?_ begins
  refine ⟨lies.chart.backTo stop.column, ?_, ?_, ?_, lies.ahead⟩
  · refine List.forall_mem_cons.mpr ⟨⟨begins, here⟩, fun stretch mem => ?_⟩
    exact lies.stretches stretch (List.mem_filter.mp mem).1
  · intro fault found
    exact lies.fault fault (Option.eq_some_of_filter_eq_some found)
  · rintro _ ⟨⟩

theorem resume? {rivals : Rivals} {region : Region} {next : Option Token} {kept : Chart}
    {stops : List Stop} {resumed : Reading} (lies : r.LiesIn place)
    (inside : region.LiesIn place) (zero : place 0)
    (found : r.resume? text rivals region next kept stops = some resumed) :
    resumed.LiesIn place := by
  -- Only one of the places is gone back to. The others are passed over.
  induction stops generalizing kept with
  | nil => cases found
  | cons stop rest ih =>
    rw [Reading.resume?] at found
    dsimp only at found
    generalize stop.depth + 1 + (if region.skipped.isSome then 1 else 0) = away at found
    split at found
    · exact ih found
    · split at found
      · cases found
      · split at found
        · cases found
          exact lies.setAside inside stop (lies.position zero)
        · split at found
          · cases found
          · exact ih found

theorem skip? {rivals : Rivals} {region : Region} {token : Token} {skipped : Reading}
    (lies : r.LiesIn place) (inside : region.LiesIn place) (next : token.LiesIn place)
    (found : r.skip? text rivals region token = some skipped) : skipped.LiesIn place := by
  unfold Reading.skip? at found
  split at found
  · cases found
  · cases found
    refine { lies with region := ?_ }
    rintro _ ⟨⟩ _ ⟨⟩
    unfold Skipped.add
    split
    · exact next
    · next set => exact ⟨(inside _ set).1, next.2⟩

theorem giveUp {region : Region} (lies : r.LiesIn place) (inside : region.LiesIn place)
    (ends : text.LiesIn place) : (r.giveUp text region).LiesIn place :=
  outcome (lies.setAside inside _ ends.stop) ends.start

theorem supply? {next : Option Token} {longer : Reading} (lies : r.LiesIn place)
    (zero : place 0) (found : r.supply? next = some longer) : longer.LiesIn place := by
  obtain ⟨⟨token, spelling⟩, lacking, made⟩ := Option.bind_eq_some_iff.mp found
  obtain ⟨more, read, rfl⟩ := Option.map_eq_some_iff.mp made
  have next := lies.chart.supplied? zero lacking
  have paid : Reading.LiesIn place { more with price := r.price + supplyPrice } :=
    { lies.read? next read with }
  dsimp only
  split
  · exact paid
  · refine paid.withFault ?_
    exact next.1

end Reading.LiesIn

/-! ## Regions -/

/-- All that a region comes to keeps to places of a kind. -/
structure Recovered.LiesIn (place : Nat → Prop) (found : Recovered) : Prop where
  resumed : ∀ r ∈ found.resumed, r.LiesIn place
  skipped : ∀ r ∈ found.skipped, r.LiesIn place
  finished : ∀ outcome ∈ found.finished, outcome.LiesIn place

theorem Reading.LiesIn.recover {r : Reading} {rivals : Rivals} {region : Region}
    {next : Option Token} (lies : r.LiesIn place) (inside : region.LiesIn place)
    (ends : text.LiesIn place) (reads : ∀ token ∈ next, token.LiesIn place) :
    (r.recover text rivals region next).LiesIn place := by
  unfold Reading.recover
  extract_lets resumed
  have taken : ∀ longer ∈ resumed, longer.LiesIn place := by
    intro longer found
    change (ite _ _ _) = _ at found
    split at found
    · exact lies.resume? inside ends.start found
    · cases found
  split
  · refine ⟨taken, fun _ => nofun, ?_⟩
    rintro _ ⟨⟩
    exact lies.giveUp inside ends
  · next token =>
    split
    · refine ⟨fun _ => nofun, ?_, fun _ => nofun⟩
      rintro _ ⟨⟩
      exact lies
    · exact ⟨taken, fun _ found => lies.skip? inside (reads _ rfl) found, fun _ => nofun⟩

/-! ## Many readings -/

theorem Outcome.LiesIn.better {later : Outcome} {earlier : Option Outcome}
    (lies : later.LiesIn place) (before : ∀ outcome ∈ earlier, outcome.LiesIn place) :
    (later.better earlier).LiesIn place := by
  unfold Outcome.better
  split
  · split
    · exact before _ rfl
    · exact lies
  · exact lies

/-- The better one of what a region has come to and what came before keeps to such places. -/
theorem Recovered.LiesIn.best {found : Recovered} {best : Option Outcome}
    (ends : found.LiesIn place) (before : ∀ outcome ∈ best, outcome.LiesIn place) :
    ∀ outcome ∈ (found.finished.map (·.better best)).or best, outcome.LiesIn place := by
  intro outcome mem
  rcases Option.or_eq_some_iff.mp mem with mem | ⟨-, mem⟩
  · obtain ⟨later, finished, rfl⟩ := Option.map_eq_some_iff.mp mem
    exact (ends.finished later finished).better before
  · exact before outcome mem

/-- What a reading has become keeps to places of a kind. -/
def Move.LiesIn (place : Nat → Prop) : Move → Prop
  | .reads r | .waits r => r.LiesIn place
  | .ends outcome => outcome.LiesIn place

theorem Reading.LiesIn.move {r : Reading} {next : Option Token} (lies : r.LiesIn place)
    (zero : place 0) (reads : ∀ token ∈ next, token.LiesIn place) :
    (r.move next).LiesIn place := by
  unfold Reading.move
  extract_lets caughtUp
  have taken : ∀ longer ∈ caughtUp, longer.LiesIn place := by
    intro longer found
    dsimp only [caughtUp] at found
    split at found
    · next token ahead => exact lies.read? (lies.ahead token ahead) found
    · cases found
      exact lies
  have idle {longer : Reading} (lies : longer.LiesIn place) :
      Reading.LiesIn place { longer with ahead := none } := { lies with ahead := fun _ => nofun }
  clear_value caughtUp
  split
  · exact lies
  · have longer := taken _ rfl
    split
    · exact idle longer
    · split
      · exact longer.outcome zero
      · exact longer
  · have longer := taken _ rfl
    split
    · next longest read => exact idle (longer.read? (reads _ rfl) read)
    · exact idle longer

/-- Readings that go on keep to places of a kind. -/
structure Round.LiesIn (place : Nat → Prop) (round : Round) : Prop where
  moved : ∀ c ∈ round.moved, c.reading.LiesIn place
  resumed : ∀ r ∈ round.resumed, r.LiesIn place
  best : ∀ outcome ∈ round.best, outcome.LiesIn place

namespace Round.LiesIn

variable {round : Round}

theorem moved_concat (lies : round.LiesIn place) {r : Reading} (one : r.LiesIn place)
    (isWaiting : Bool) :
    ∀ c ∈ round.moved ++ [(⟨r, isWaiting⟩ : Candidate)], c.reading.LiesIn place :=
  List.forall_mem_append.mpr ⟨lies.moved, List.forall_mem_singleton.mpr one⟩

theorem add (lies : round.LiesIn place) {move : Move} (one : move.LiesIn place) :
    (round.add move).LiesIn place := by
  cases move with
  | reads r => exact { lies with moved := lies.moved_concat one false }
  | waits r => exact { lies with moved := lies.moved_concat one true }
  | ends outcome =>
    refine { lies with best := ?_ }
    rintro _ ⟨⟩
    exact one.better lies.best

theorem addRecovered (lies : round.LiesIn place) {found : Recovered}
    (ends : found.LiesIn place) : (round.addRecovered found).LiesIn place := by
  refine ⟨List.forall_mem_append.mpr ⟨lies.moved, fun c mem => ?_⟩,
    List.forall_mem_append.mpr ⟨lies.resumed, fun r mem => ?_⟩, ends.best lies.best⟩
  · obtain ⟨r, skipped, rfl⟩ := List.mem_map.mp mem
    exact ends.skipped r (Option.mem_toList.mp skipped)
  · exact ends.resumed r (Option.mem_toList.mp mem)

theorem go {next : Option Token} {readings : List Reading} (lies : round.LiesIn place)
    (all : ∀ r ∈ readings, r.LiesIn place) (ends : text.LiesIn place)
    (reads : ∀ token ∈ next, token.LiesIn place) :
    (Round.go text next round readings).LiesIn place := by
  induction readings generalizing round with
  | nil => exact lies
  | cons r later ih =>
    obtain ⟨one, others⟩ := List.forall_mem_cons.mp all
    rw [Round.go]
    split
    · exact ih (lies.add (one.move ends.start reads)) others
    · next region begun =>
      exact ih (lies.addRecovered (one.recover (one.region region begun) ends reads)) others

theorem close {next : Option Token} (lies : round.LiesIn place) (zero : place 0)
    (reads : ∀ token ∈ next, token.LiesIn place) : (round.close next).LiesIn place := by
  have all := lies.resumed
  rw [Round.close]
  have idle : Round.LiesIn place { round with resumed := [] } :=
    { lies with resumed := List.forall_mem_nil _ }
  generalize round.resumed = resumed at all
  generalize ({ round with resumed := [] } : Round) = round at idle
  induction resumed generalizing round with
  | nil => exact idle
  | cons r later ih =>
    obtain ⟨one, others⟩ := List.forall_mem_cons.mp all
    exact ih others _ (idle.add (one.move zero reads))

end Round.LiesIn

/-! ## Choosing among readings -/

theorem Candidate.mem_insert {c : Standing × Candidate} {kept : List (Standing × Candidate)} :
    ∀ x ∈ Candidate.insert c kept, x = c ∨ x ∈ kept := by
  induction kept with
  | nil => simp [Candidate.insert]
  | cons other rest ih =>
    intro x mem
    rw [Candidate.insert] at mem
    split at mem
    · exact .inr mem
    · rcases List.mem_cons.mp mem with rfl | mem
      · exact .inr List.mem_cons_self
      · exact (ih x mem).imp_right (List.mem_cons_of_mem _)
    · rcases List.mem_cons.mp mem with rfl | mem
      · exact .inl rfl
      · refine .inr ?_
        rcases List.mem_cons.mp mem with rfl | mem
        · exact List.mem_cons_self
        · exact List.mem_cons_of_mem _ (List.mem_filter.mp mem).1
    · exact (ih x mem).imp_right (List.mem_cons_of_mem _)

/-- Whatever is worth going on with is among what there is. -/
theorem Candidate.mem_of_mem_rank {cs : List Candidate} : ∀ c ∈ Candidate.rank text cs, c ∈ cs := by
  have all (cs : List Candidate) (kept : List (Standing × Candidate)) :
      ∀ x ∈ cs.foldl (fun kept c => Candidate.insert (c.standing text, c) kept) kept,
        x ∈ kept ∨ x.2 ∈ cs := by
    induction cs generalizing kept with
    | nil => exact fun x mem => .inl mem
    | cons c cs ih =>
      intro x mem
      rcases ih _ x mem with mem | mem
      · rcases Candidate.mem_insert x mem with rfl | mem
        · exact .inr List.mem_cons_self
        · exact .inl mem
      · exact .inr (List.mem_cons_of_mem _ mem)
  intro c mem
  obtain ⟨x, ranked, rfl⟩ := List.mem_map.mp mem
  exact (all cs [] x (List.mem_of_mem_take ranked)).resolve_left List.not_mem_nil

/-! ## The race -/

/-- All readings of a race, and the best outcome so far, keep to places of a kind. -/
structure Race.LiesIn (place : Nat → Prop) (race : Race) : Prop where
  readings : ∀ r ∈ race.readings, r.LiesIn place
  best : ∀ outcome ∈ race.best, outcome.LiesIn place

namespace Race.LiesIn

theorem repair {next : Option Token} {best : Option Outcome} {r : Reading}
    {beside : List Reading} (lies : r.LiesIn place) (others : ∀ r ∈ beside, r.LiesIn place)
    (ends : text.LiesIn place) (before : ∀ outcome ∈ best, outcome.LiesIn place)
    (reads : ∀ token ∈ next, token.LiesIn place) :
    (Race.repair text next best r beside).LiesIn place := by
  unfold Race.repair
  extract_lets look all rivals region begun found resumed
  have looks : ∀ token ∈ look, token.LiesIn place := by
    intro _ mem
    obtain ⟨token, some, rfl⟩ := Option.map_eq_some_iff.mp mem
    exact (reads token some).unfitting
  -- A reading that has the token still to read.
  have waiting (o : Option Reading) (one : ∀ r ∈ o, r.LiesIn place) :
      ∀ r ∈ (o.map ({ · with ahead := next })).toList, r.LiesIn place := by
    intro r mem
    obtain ⟨longer, found, rfl⟩ := Option.map_eq_some_iff.mp (Option.mem_toList.mp mem)
    exact { one longer found with ahead := reads }
  have inside : region.LiesIn place := fun _ => nofun
  have beginning : begun.LiesIn place := { lies with region := by rintro _ ⟨⟩; exact inside }
  have recovered : found.LiesIn place := beginning.recover inside ends looks
  have whole : ∀ r ∈ all, r.LiesIn place :=
    List.forall_mem_append.mpr ⟨others, waiting _ fun _ made => lies.supply? ends.start made⟩
  refine ⟨List.forall_mem_append.mpr ⟨List.forall_mem_append.mpr ⟨fun r mem => ?_, whole⟩,
    waiting _ recovered.resumed⟩, recovered.best before⟩
  exact recovered.skipped r (Option.mem_toList.mp mem)

theorem step {race : Race} {next : Option Token} (lies : race.LiesIn place)
    (ends : text.LiesIn place) (reads : ∀ token ∈ next, token.LiesIn place) :
    (race.step text next).LiesIn place := by
  unfold Race.step
  extract_lets round
  have begun : Round.LiesIn place ⟨[], [], race.best⟩ :=
    ⟨List.forall_mem_nil _, List.forall_mem_nil _, lies.best⟩
  have gone : round.LiesIn place := (begun.go lies.readings ends reads).close ends.start reads
  have kept : ∀ c ∈ Candidate.rank text round.moved, c.reading.LiesIn place :=
    fun c mem => gone.moved c (Candidate.mem_of_mem_rank c mem)
  split
  · exact ⟨List.forall_mem_nil _, gone.best⟩
  · next first rest ranked =>
    rw [ranked] at kept
    obtain ⟨one, others⟩ := List.forall_mem_cons.mp kept
    have beside : ∀ r ∈ (rest.filter (!·.isWaiting)).map (·.reading), r.LiesIn place := by
      intro r mem
      obtain ⟨c, ready, rfl⟩ := List.mem_map.mp mem
      exact others c (List.mem_filter.mp ready).1
    dsimp only
    split
    · exact repair one beside ends gone.best reads
    · exact ⟨List.forall_mem_cons.mpr ⟨one, beside⟩, gone.best⟩

theorem finish {fuel : Nat} {race : Race} (lies : race.LiesIn place) (ends : text.LiesIn place) :
    ∀ outcome ∈ race.finish text fuel, outcome.LiesIn place := by
  induction fuel generalizing race with
  | zero => exact lies.best
  | succ fuel ih =>
    rw [Race.finish]
    split
    · exact lies.best
    · refine ih (step ⟨fun r mem => ?_, lies.best⟩ ends fun _ => nofun)
      exact lies.readings r (List.mem_filter.mp mem).1

end Race.LiesIn

/-- The first fault of a text lies where a token or the text begins or ends. -/
theorem Chart.LiesIn.fault {chart : Chart} {rest : List Token} (lies : Chart.LiesIn place chart)
    (ends : text.LiesIn place) (reads : ∀ token ∈ rest, token.LiesIn place) :
    place (chart.fault text rest).start := by
  unfold Chart.fault
  extract_lets race
  have last : race.LiesIn place := by
    have begun : Race.LiesIn place ⟨[Reading.start chart], none⟩ :=
      ⟨List.forall_mem_singleton.mpr (.start lies), fun _ => nofun⟩
    change Race.LiesIn place (rest.foldl _ _)
    generalize (⟨[Reading.start chart], none⟩ : Race) = race at begun
    induction rest generalizing race with
    | nil => exact begun
    | cons token rest ih =>
      obtain ⟨one, others⟩ := List.forall_mem_cons.mp reads
      exact ih others _ (begun.step ends (by rintro _ ⟨⟩; exact one))
  cases finished : race.finish text Race.finishFuel with
  | none => exact ends.start
  | some outcome => exact last.finish ends outcome finished

end Stubsmith.Syntax
