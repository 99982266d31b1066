import Stubsmith.Syntax.Repair.Reading

/-!
# Reading a malformed text to its end

Several readings of a malformed text go on side by side, token by token. The best one is
repaired when it cannot go on, others that cannot are given up, and so is a reading beside which
another one is clearly better. The first fault of the cheapest reading that comes to its end is
where the text goes wrong.

## Main definitions

* `Race` — the readings that go on side by side.
* `Race.step` — goes on by one token.
* `Chart.fault` — the first fault of a text that cannot be read on.
-/

namespace Stubsmith.Syntax

/-- A token as it looks where it does not fit: a word that is not wanted as a keyword is but a
word. -/
def Token.unfitting (token : Token) : Token :=
  match token.kind with
  | .word _ => { token with kind := .word none }
  | _ => token

/-- A reading among others. -/
structure Candidate where
  reading : Reading
  /-- Whether it cannot go on and waits for a repair. -/
  isWaiting : Bool

namespace Candidate

/-- What a choice looks at in a candidate. -/
def standing (text : Layout) (c : Candidate) : Standing :=
  if c.isWaiting then c.reading.waitingStanding text else c.reading.standing text

/-- Whether a candidate reads on. -/
def isReading (c : Candidate) : Bool := !c.isWaiting && c.reading.region.isNone

/-- Puts a candidate among others, best first, and gives up those that are clearly worse. -/
def insert (c : Standing × Candidate) :
    List (Standing × Candidate) → List (Standing × Candidate)
  | [] => [c]
  | other :: rest =>
    match other.1.compare c.1 with
    | .onlyLeft => other :: rest
    | .left => other :: insert c rest
    | .right => c :: other :: rest.filter fun later => later.1.compare c.1 != .onlyRight
    | .onlyRight => insert c rest

/-- The candidates worth going on with, best first. -/
def rank (text : Layout) (cs : List Candidate) : List Candidate :=
  let ranked := cs.foldl (fun kept c => insert (c.standing text, c) kept) []
  (ranked.take maxReadings).map (·.2)

end Candidate

/-- What becomes of a reading that sets nothing aside at the next token. -/
inductive Move
  | reads (r : Reading)
  | waits (r : Reading)
  | ends (outcome : Outcome)

/-- Goes on with a reading that sets nothing aside. A token that is still to be read is read
first; the end of the text is then left for the next time. -/
def Reading.move (r : Reading) (next : Option Token) : Move :=
  let caughtUp := match r.ahead with
    | some token => r.read? token
    | none => some r
  match caughtUp, next with
  | none, _ => .waits r
  | some longer, none =>
    if r.ahead.isSome then .reads { longer with ahead := none }
    else if longer.chart.tree?.isSome then .ends longer.outcome
    else .waits longer
  | some longer, some token =>
    match longer.read? token with
    | some longest => .reads { longest with ahead := none }
    | none => .waits { longer with ahead := none }

/-- The readings while they go on by one token, one after the other. -/
structure Round where
  /-- Those that have gone on. -/
  moved : List Candidate
  /-- Those that are taken up again and have the token still to read. -/
  resumed : List Reading
  best : Option Outcome

namespace Round

/-- Adds what has become of a reading. -/
def add (round : Round) : Move → Round
  | .reads r => { round with moved := round.moved ++ [⟨r, false⟩] }
  | .waits r => { round with moved := round.moved ++ [⟨r, true⟩] }
  | .ends outcome => { round with best := some (outcome.better round.best) }

/-- What a region is measured against, given the readings that have yet to go on. One that
lags behind is no rival. -/
def rivals (text : Layout) (round : Round) (later : List Reading) : Rivals where
  standings :=
    (round.moved.filter (·.isReading)).map (·.standing text) ++
      (later.filter fun r => r.region.isNone && r.ahead.isNone).map (·.standing text) ++
      round.resumed.map (·.standing text)
  best := round.best

/-- Adds what a region has come to. -/
def addRecovered (round : Round) (found : Recovered) : Round where
  moved := round.moved ++ found.skipped.toList.map fun r => ⟨r, false⟩
  resumed := round.resumed ++ found.resumed.toList
  best := (found.finished.map (·.better round.best)).or round.best

/-- Goes on with some readings by one token. -/
def go (text : Layout) (next : Option Token) (round : Round) : List Reading → Round
  | [] => round
  | r :: later =>
    match r.region with
    | none => go text next (round.add (r.move next)) later
    | some region =>
      let found := r.recover text (round.rivals text later) region next
      go text next (round.addRecovered found) later

/-- Goes on with the readings that are taken up again, last of all. -/
def close (next : Option Token) (round : Round) : Round :=
  round.resumed.foldl (fun round r => round.add (r.move next)) { round with resumed := [] }

end Round

/-- The readings that go on side by side, and the best outcome so far. -/
structure Race where
  readings : List Reading
  best : Option Outcome

namespace Race

/-- Repairs a reading that cannot go on, given the readings beside it. -/
def repair (text : Layout) (next : Option Token) (best : Option Outcome) (r : Reading)
    (beside : List Reading) : Race :=
  let look := next.map Token.unfitting
  -- Of the three repairs the first is tried here. The others are what its region comes to.
  let others := beside ++ ((r.supply? look).map ({ · with ahead := next })).toList
  let rivals := (others.filter (·.region.isNone)).map (·.standing text)
  let region := r.regionFrom look
  let begun := { r with mark := r.weight, region := some region }
  let found := begun.recover text ⟨rivals, best⟩ region look
  let resumed := found.resumed.map ({ · with ahead := next })
  ⟨found.skipped.toList ++ others ++ resumed.toList, (found.finished.map (·.better best)).or best⟩

/-- Goes on by one token. The best reading is repaired if it cannot go on; others that cannot
are given up. -/
def step (text : Layout) (race : Race) (next : Option Token) : Race :=
  let round := (Round.go text next ⟨[], [], race.best⟩ race.readings).close next
  match Candidate.rank text round.moved with
  | [] => ⟨[], round.best⟩
  | first :: rest =>
    let others := (rest.filter (!·.isWaiting)).map (·.reading)
    if first.isWaiting then repair text next round.best first.reading others
    else ⟨first.reading :: others, round.best⟩

/-- Goes on at the end of the text until all readings worth it have ended. -/
def finish (text : Layout) : Nat → Race → Option Outcome
  | 0, race => race.best
  | fuel + 1, race =>
    let worthwhile := race.readings.filter fun r => race.best.all (r.price ≤ ·.price)
    match worthwhile with
    | [] => race.best
    | readings => finish text fuel (step text { race with readings } none)

/-- How often readings may have to be repaired at the end of a text. -/
def finishFuel : Nat := 16

end Race

/-- The first fault of a text that has been read up to the given tokens and cannot be read on. -/
def Chart.fault (chart : Chart) (text : Layout) (rest : List Token) : Fault :=
  let race := rest.foldl (fun race t => race.step text (some t))
    (⟨[Reading.start chart], none⟩ : Race)
  ((race.finish text Race.finishFuel).map (·.fault)).getD ⟨0, none⟩

end Stubsmith.Syntax
