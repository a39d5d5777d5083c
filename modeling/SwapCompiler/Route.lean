import SwapCompiler.Address
import SwapCompiler.Amount

/-!
# Priced routes

A route is a set of legs that run in parallel, each selling its share of the input through
one exchange. A priced route lists routes, best first; only the first one is compiled.
-/

namespace SwapCompiler

/-- One parallel portion of a route. -/
structure Leg where
  srcToken : Address
  destToken : Address
  /-- The amount sold, as the text it was given in. -/
  srcAmount : String
  /-- The amount expected, as the text it was given in. -/
  destAmount : String
  /-- The share of the input, in percent. -/
  percent : Float
  /-- The name of the exchange, for information only. -/
  exchange : Option JsonString

/-- Legs that share the input between them. -/
structure Route where
  percent : Number
  legs : List Leg

/-- A priced swap: candidate routes, best first. -/
structure PriceRoute where
  srcToken : Address
  destToken : Address
  srcAmount : String
  destAmount : String
  bestRoute : List Route

/-- The sum of the legs' shares; a whole zero if there is no leg. -/
def Route.totalPercent (route : Route) : Number :=
  route.legs.foldl (fun total leg => total + .float leg.percent) (.int 0)

/-- The legs of the best route. -/
def PriceRoute.legs (route : PriceRoute) : List Leg :=
  match route.bestRoute with
  | [] => []
  | best :: _ => best.legs

end SwapCompiler
