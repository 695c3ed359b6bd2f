import GridStore.Resource
import GridStore.Validation

/-!
# A sample network

A chain of substations of equal build, numbered from zero. Each has a level of 400 kV with a
busbar section, a breaker and a generator, a level of 225 kV with a load, and a transformer
between the two. Lines of 400 kV join each substation to the next.
-/

namespace GridStore.Sample

/-- The double nearest to a decimal number. -/
def decimal (mantissa : Nat) (exponent : Int) : Binary64 :=
  (Binary64.ofDecimal false mantissa exponent).getD default

/-- The double nearest to a whole number. -/
def whole (n : Nat) : Binary64 :=
  .ofInt n

/-- The id of a substation. -/
def substationId (n : Nat) : String :=
  "S" ++ toString n

/-- The id of the level of a substation with a voltage in kV. -/
def levelId (n kv : Nat) : String :=
  substationId n ++ "_" ++ toString kv

/-- The id of the bus of the lower level. -/
def busId (n : Nat) : String :=
  levelId n 225 ++ "_B"

/-- A substation. -/
def substation (n : Nat) : Resource Substation :=
  .of (substationId n) initialVariantNum
    { (default : Substation) with
      name := some ("Substation " ++ toString n)
      country := some "FR"
      tso := some "DEMO" }

/-- A level of a substation, with limits of 5% to either side of its voltage. -/
def voltageLevel (n kv : Nat) : Resource VoltageLevel :=
  .of (levelId n kv) initialVariantNum
    { (default : VoltageLevel) with
      substationId := substationId n
      nominalV := whole kv
      lowVoltageLimit := some (decimal (kv * 95) (-2))
      highVoltageLimit := some (decimal (kv * 105) (-2))
      topologyKind := if kv = 400 then .nodeBreaker else .busBreaker }

/-- The busbar section of a substation. -/
def busbarSection (n : Nat) : Resource BusbarSection :=
  .of (substationId n ++ "_BBS") initialVariantNum
    { (default : BusbarSection) with
      voltageLevelId := levelId n 400
      node := 0 }

/-- The breaker of a substation. -/
def breaker (n : Nat) : Resource Switch :=
  .of (substationId n ++ "_BRK") initialVariantNum
    { (default : Switch) with
      voltageLevelId := levelId n 400
      kind := .breaker
      node1 := some 0
      node2 := some 1 }

/-- The transformer of a substation. -/
def transformer (n : Nat) : Resource TwoWindingsTransformer :=
  .of ("T" ++ toString n) initialVariantNum
    { (default : TwoWindingsTransformer) with
      voltageLevelId1 := levelId n 400
      voltageLevelId2 := levelId n 225
      node1 := some 2
      bus2 := some (busId n)
      connectableBus2 := some (busId n)
      r := decimal 2 (-1)
      x := whole 40
      ratedU1 := whole 400
      ratedU2 := whole 225 }

/-- What the generators run on, in turn. -/
def energySource (n : Nat) : EnergySource :=
  match n % 5 with
  | 0 => .nuclear
  | 1 => .hydro
  | 2 => .thermal
  | 3 => .wind
  | _ => .solar

/-- The most that the generator of a substation gives, in MW. -/
def generatorLimit (n : Nat) : Nat :=
  500 + 100 * (n % 5)

/-- The generator of a substation, which aims at four fifths of its limit. -/
def generator (n : Nat) : Resource Generator :=
  let limit := generatorLimit n
  .of ("G" ++ toString n) initialVariantNum
    { (default : Generator) with
      voltageLevelId := levelId n 400
      node := some 1
      energySource := energySource n
      minP := whole 0
      maxP := whole limit
      targetP := whole (limit * 4 / 5)
      targetV := some (whole 405)
      voltageRegulatorOn := true
      reactiveLimits := some (.minMax
        { minQ := .ofInt (-(limit / 2 : Nat))
          maxQ := whole (limit / 2) })
      properties := .ofList [("zone", "Z" ++ toString (n / 10))] }

/-- The load of a substation. -/
def load (n : Nat) : Resource Load :=
  .of ("LD" ++ toString n) initialVariantNum
    { (default : Load) with
      voltageLevelId := levelId n 225
      bus := some (busId n)
      connectableBus := some (busId n)
      p0 := whole (300 + 25 * (n % 7))
      q0 := whole 50 }

/-- The line from a substation to the next. -/
def line (n : Nat) : Resource Line :=
  .of ("L" ++ toString n ++ "_" ++ toString (n + 1)) initialVariantNum
    { (default : Line) with
      voltageLevelId1 := levelId n 400
      voltageLevelId2 := levelId (n + 1) 400
      node1 := some 3
      node2 := some 4
      r := decimal 15 (-1)
      x := whole 15
      b1 := decimal 1 (-4)
      b2 := decimal 1 (-4)
      currentLimits1 := some { permanentLimit := whole 2000, temporaryLimits := [] } }

/-- The network that the sample belongs to. -/
def network (uuid : Uuid) (caseDate : Timestamp) : Resource Network :=
  .of "demo" initialVariantNum
    { (default : Network) with
      uuid
      sourceFormat := "DEMO"
      caseDate }

/-- The substations. -/
def substations (count : Nat) : List (Resource Substation) :=
  (List.range count).map substation

/-- The levels, both of a substation before those of the next. -/
def voltageLevels (count : Nat) : List (Resource VoltageLevel) :=
  (List.range count).flatMap fun n => [voltageLevel n 400, voltageLevel n 225]

/-- The busbar sections. -/
def busbarSections (count : Nat) : List (Resource BusbarSection) :=
  (List.range count).map busbarSection

/-- The breakers. -/
def breakers (count : Nat) : List (Resource Switch) :=
  (List.range count).map breaker

/-- The transformers. -/
def transformers (count : Nat) : List (Resource TwoWindingsTransformer) :=
  (List.range count).map transformer

/-- The generators. -/
def generators (count : Nat) : List (Resource Generator) :=
  (List.range count).map generator

/-- The loads. -/
def loads (count : Nat) : List (Resource Load) :=
  (List.range count).map load

/-- The lines, one less than there are substations. -/
def lines (count : Nat) : List (Resource Line) :=
  (List.range (count - 1)).map line

end GridStore.Sample
