import Stubsmith.Syntax.Repair.Retreat

/-!
# Readings of a malformed text

A reading is one way to read a text up to some token. Where the next token does not fit, three
repairs are possible. A token may be supplied before it. What was read back to an earlier place
may be set aside, if the token fits there. And the token itself may be set aside; the reading is
then within a region, until it can be taken up again at some later token.

## Main definitions

* `Fault` — a place where a text goes wrong.
* `Reading` — one way to read the text so far, with its price and its first fault.
* `Reading.supply?` — supplies a token.
* `Reading.resume?` — takes a reading up at an earlier place.
* `Reading.skip?` — sets a token aside.
* `Reading.recover` — what becomes of a region at the next token.
-/

namespace Stubsmith.Syntax

/-- A place that needs repair: where it is, and which token is lacking there. -/
structure Fault where
  start : Nat
  missing : Option String
  deriving DecidableEq, Repr

/-- A finished reading: its price and its first fault. -/
structure Outcome where
  price : Nat
  fault : Fault

/-- The cheaper of two outcomes, the later where they cost the same. -/
def Outcome.better (later : Outcome) (earlier : Option Outcome) : Outcome :=
  match earlier with
  | some o => if o.price < later.price then o else later
  | none => later

/-- Some tokens in a row that are set aside. -/
structure Skipped where
  /-- The byte at which the first of them begins. -/
  start : Nat
  /-- The byte at which the latest of them ends. -/
  stop : Nat
  /-- What they count for. -/
  weight : Nat
  /-- Whether there is but one, and that one is no token of the language. -/
  isStray : Bool

/-- One more token set aside. -/
def Skipped.add (skipped : Option Skipped) (token : Token) : Skipped :=
  match skipped with
  | none => ⟨token.start, token.stop, token.weight, token.kind == .other .stray⟩
  | some s => ⟨s.start, token.stop, s.weight + token.weight, false⟩

/-- The price of some tokens set aside. A stray character alone is no construct. -/
def Skipped.price (text : Layout) (skipped : Skipped) : Nat :=
  (if skipped.isStray then 0 else treePrice * skipped.weight) +
    text.price skipped.start skipped.stop

/-- A part of the text that is being set aside. -/
structure Region where
  /-- Where the reading can be taken up again, nearest first. -/
  stops : List Stop
  /-- The words read last before it, if they are not yet known to be names. -/
  words : List Item
  /-- The tokens set aside so far. -/
  skipped : Option Skipped

/-- A stretch of text that was set aside, after which the reading was taken up again. -/
structure Stretch where
  /-- The column in which the reading was taken up. -/
  column : Nat
  /-- The byte at which it begins. -/
  start : Nat
  /-- The byte at which it ends. -/
  stop : Nat
  /-- What lies in it counts for this much. -/
  weight : Nat
  /-- What it costs. -/
  price : Nat

/-- One way to read the text so far. -/
structure Reading where
  chart : Chart
  /-- The stretches set aside that lie between what has been read, latest first. -/
  stretches : List Stretch
  /-- The price of all repairs that are finished. -/
  price : Nat
  /-- The number of constructs that lie in stretches set aside. -/
  lost : Nat
  /-- The number of constructs read when a region last began. -/
  mark : Nat
  /-- The first fault that can be shown. -/
  fault : Option Fault
  /-- The region being set aside. -/
  region : Option Region
  /-- A token that fits and is still to be read. -/
  ahead : Option Token

/-- What a repair is measured against: readings that have come as far, and the best one that
has come to its end. -/
structure Rivals where
  standings : List Standing
  best : Option Outcome

/-- Whether a repair at some price is hopeless beside its rivals. -/
def Rivals.beat (rivals : Rivals) (price : Nat) : Bool :=
  rivals.best.any (·.price ≤ price) ||
    rivals.standings.any fun rival =>
      (⟨price, false, 0⟩ : Standing).compare rival == .onlyRight

/-- What a region comes to at the next token. -/
structure Recovered where
  /-- The reading that is taken up where the token fits. -/
  resumed : Option Reading
  /-- The reading that sets the token aside. -/
  skipped : Option Reading
  /-- What is left at the end of the text. -/
  finished : Option Outcome

namespace Reading

/-- The reading that has read a text up to where it goes wrong. -/
def start (chart : Chart) : Reading := ⟨chart, [], 0, 0, 0, none, none, none⟩

/-! ## Where a reading stands -/

/-- The stretch set aside right before what was read from a column on. -/
def stretchAt? (r : Reading) (column : Nat) : Option Stretch :=
  r.stretches.find? (·.column == column)

/-- The byte where what was read up to a column ends, a stretch set aside there included. -/
def stopByte (r : Reading) (column : Column) : Nat :=
  match r.stretchAt? column.index with
  | some stretch => stretch.stop
  | none => (column.last.map (·.stop)).getD 0

/-- The byte that a reading has come to. -/
def position (r : Reading) : Nat :=
  match r.region.bind (·.skipped) with
  | some skipped => skipped.stop
  | none => (r.chart.head?.map r.stopByte).getD 0

/-- The price of all repairs, that of the current region so far included. -/
def spent (text : Layout) (r : Reading) : Nat :=
  match r.region with
  | none => r.price
  | some region => r.price + regionPrice + (region.skipped.map (·.price text)).getD 0

/-- The number of constructs in what has been read or set aside. -/
def weight (r : Reading) : Nat := r.chart.weight + r.lost

/-- What a choice between readings looks at. -/
def standing (text : Layout) (r : Reading) : Standing where
  price := r.spent text
  inRegion := r.region.isSome
  progress :=
    match r.region with
    | none => r.weight - r.mark
    | some region => (region.skipped.map (1 + ·.weight)).getD 0

/-- What a choice looks at in a reading that cannot go on and is still to be repaired. -/
def waitingStanding (text : Layout) (r : Reading) : Standing :=
  { r.standing text with price := r.price + regionPrice + treePrice, inRegion := true }

/-- Adds a fault to a reading: of two the earlier is the first one. -/
def withFault (r : Reading) (fault : Fault) : Reading :=
  match r.fault with
  | some f => if f.start ≤ fault.start then r else { r with fault := some fault }
  | none => { r with fault := some fault }

/-- A reading that has come to its end. A fault that cannot be shown counts as one at the start
of the text. -/
def outcome (r : Reading) : Outcome := ⟨r.price, r.fault.getD ⟨0, none⟩⟩

/-! ## Setting text aside -/

/-- Reads a token that fits. -/
def read? (r : Reading) (token : Token) : Option Reading :=
  (r.chart.push? token).map fun chart => { r with chart }

/-- Sets aside what was read after a place, together with the tokens of the region, up to a
byte. A stretch set aside right before it grows. A token that was supplied first of all that is
set aside is not lacking any more. -/
def setAside (text : Layout) (r : Reading) (region : Region) (stop : Stop) (stopByte : Nat) :
    Reading :=
  -- The token right after the place is the first that is set aside. It is empty if it was supplied.
  let dropped := (r.chart.take (r.chart.size - 1 - stop.column)).getLast?.bind (·.last)
  let supplied := dropped.any fun (t : Token) => t.text.isEmpty
  -- A stretch that ends at the place grows, and is paid for once.
  let before := r.stretchAt? stop.column
  let first := (before.map (·.start)).or
    ((dropped.map (·.start)).or (region.skipped.map (·.start)))
  let start := first.getD stopByte
  let skippedWeight := (region.skipped.map (·.weight)).getD 0
  let kept := r.chart.backTo stop.column
  let weight := (before.map (·.weight)).getD 0 + stop.trees + skippedWeight
  let price := regionPrice + treePrice * weight + text.price start stopByte
  { r with
    chart := kept
    stretches := ⟨stop.column, start, stopByte, weight, price⟩ ::
      r.stretches.filter (·.column < stop.column)
    price := r.price - (before.map Stretch.price).getD 0 + price
    lost := r.lost + (r.chart.weight - kept.weight) + skippedWeight +
      if before.isSome then 0 else 1
    fault := r.fault.filter fun f => f.start < start || !supplied
    region := none }.withFault ⟨start, none⟩

/-- How many steps a reading can go back and be taken up again. -/
def maxRetreat : Nat := 15

/-- Tries to take up a reading at an earlier place where the next token fits. The chart as it
was at the place tried before is passed on. A word that the token makes a name is not gone back
beyond. -/
def resume? (text : Layout) (rivals : Rivals) (r : Reading) (region : Region)
    (next : Option Token) (kept : Chart) : List Stop → Option Reading
  | [] => none
  | stop :: rest =>
    let kept := kept.backTo stop.column
    let stopByte := (kept.head?.map r.stopByte).getD 0
    -- There is nothing between the place and the reading, or too much.
    if stopByte == r.position || stop.depth > maxRetreat then
      resume? text rivals r region next kept rest
    else
      let away := stop.depth + 1 + if region.skipped.isSome then 1 else 0
      if rivals.beat (r.spent text + treePrice * away + text.price stopByte r.position) then none
      else if kept.head?.any (·.fits next) then some (r.setAside text region stop r.position)
      -- The word before turns out to be a name, and the token follows it.
      else if stop.depth == 0 && region.words.any (r.chart.followsWord · next) then none
      else resume? text rivals r region next kept rest

/-- Sets one more token aside. -/
def skip? (text : Layout) (rivals : Rivals) (r : Reading) (region : Region) (token : Token) :
    Option Reading :=
  if rivals.beat (r.spent text + treePrice + text.price r.position token.stop) then none
  else
    let skipped := some (Skipped.add region.skipped token)
    some { r with region := some { region with skipped } }

/-- Sets the whole text aside. -/
def giveUp (text : Layout) (r : Reading) (region : Region) : Outcome :=
  let trees := (region.stops.getLast?.map (·.trees)).getD 0
  (r.setAside text region ⟨0, trees, 0⟩ text.size).outcome

/-- What a region comes to at the next token. A stray character fits nowhere, and the end of a
line counts for nothing. -/
def recover (text : Layout) (rivals : Rivals) (r : Reading) (region : Region)
    (next : Option Token) : Recovered :=
  let resumed :=
    if next.all (·.kind != .other .stray) then
      r.resume? text rivals region next r.chart region.stops
    else none
  match next with
  | none => ⟨resumed, none, some (r.giveUp text region)⟩
  | some token =>
    if token.kind == .other .lineEnd then ⟨none, some r, none⟩
    else
      let more := (resumed.map (·.standing text)).toList
      let rivals := { rivals with standings := rivals.standings ++ more }
      ⟨resumed, r.skip? text rivals region token, none⟩

/-- The region that begins at a token that does not fit. -/
def regionFrom (r : Reading) (next : Option Token) : Region :=
  ⟨r.chart.stops next, r.chart.bareWords next, none⟩

/-! ## Supplying a token -/

/-- The reading that supplies a lacking token. A lacking word cannot be shown. -/
def supply? (r : Reading) (next : Option Token) : Option Reading :=
  (r.chart.supplied? next).bind fun (token, spelling) =>
    (r.read? token).map fun longer =>
      let longer := { longer with price := r.price + supplyPrice }
      if spelling.isEmpty then longer else longer.withFault ⟨token.start, some spelling⟩

end Reading

end Stubsmith.Syntax
