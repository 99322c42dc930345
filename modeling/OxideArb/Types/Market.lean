import OxideArb.Types.Basic

/-!
# Markets

The part of a market's registry entry that detection, valuation and settlement read.
-/

namespace OxideArb

inductive MarketCategory
  | geopolitics
  | sports
  | politics
  | finance
  | tech
  | culture
  | weather
  | economics
  | crypto
  | other
deriving DecidableEq, Repr

namespace MarketCategory

def allVariants : List MarketCategory :=
  [.geopolitics, .sports, .politics, .finance, .tech, .culture, .weather, .economics, .crypto,
    .other]

def tableIndex : MarketCategory → Nat
  | .geopolitics => 0
  | .sports => 1
  | .politics => 2
  | .finance => 3
  | .tech => 4
  | .culture => 5
  | .weather => 6
  | .economics => 7
  | .crypto => 8
  | .other => 9

/-- `fee_rank`: higher rank, higher documented fee rate. -/
def feeRank : MarketCategory → Nat
  | .crypto => 9
  | .economics => 8
  | .culture => 7
  | .weather => 6
  | .politics => 5
  | .finance => 4
  | .tech => 3
  | .sports => 2
  | .geopolitics => 1
  | .other => 0

end MarketCategory

structure CategorySet where
  bits : Nat
deriving DecidableEq, Repr

namespace CategorySet

variable (set : CategorySet)

def contains (category : MarketCategory) : Bool :=
  set.bits.testBit category.tableIndex

def iter : List MarketCategory :=
  MarketCategory.allVariants.filter set.contains

/-- `max_by_key`: the last of the greatest elements. -/
def maxByRank : List MarketCategory → Option MarketCategory
  | [] => none
  | category :: rest =>
    some (rest.foldl (fun best c => if best.feeRank ≤ c.feeRank then c else best) category)

def feeCategory : MarketCategory :=
  (maxByRank set.iter).getD .other

end CategorySet

structure MarketRegistryInfo where
  marketId : MarketId
  tokenYes : TokenId
  tokenNo : TokenId
  categories : CategorySet
  negRisk : Bool
  endDate : Option DateTime
deriving DecidableEq, Repr

def MarketRegistryInfo.feeCategory (market : MarketRegistryInfo) : MarketCategory :=
  market.categories.feeCategory

structure MarketRegistry where
  getMarket : MarketId → Option MarketRegistryInfo

end OxideArb
