/-!
# Gates

A gate lets those who come pass one by one, each for one permit. Who finds no permit waits in
order; new permits go to those who wait before any is kept. Somebody who was given a permit and
leaves without passing hands it to the next.
-/

namespace ConnectionPool

/-- A gate and those at it, each known by a number. -/
structure Gate where
  /-- The permits nobody has been given. -/
  permits : Nat
  /-- Those who wait for a permit, the one who came first in front. -/
  waiting : List Nat
  /-- Those who have been given a permit and have not passed yet. -/
  granted : List Nat
deriving DecidableEq, Inhabited

namespace Gate

/-- A gate without permits at which nobody waits. -/
def closed : Gate := ⟨0, [], []⟩

/-- Add permits, and say who is given one. -/
def grant (count : Nat) (g : Gate) : List Nat × Gate :=
  let served := g.waiting.take count
  (served,
    ⟨g.permits + (count - served.length), g.waiting.drop count, g.granted ++ served⟩)

/-- Come to the gate: pass, or wait. -/
def enter (who : Nat) (g : Gate) : Bool × Gate :=
  if 0 < g.permits then (true, { g with permits := g.permits - 1 })
  else (false, { g with waiting := g.waiting ++ [who] })

/-- Pass with the permit that was given, if one was. -/
def pass (who : Nat) (g : Gate) : Bool × Gate :=
  if g.granted.contains who then (true, { g with granted := g.granted.erase who }) else (false, g)

/-- Leave the gate, and say who is given the permit left behind. -/
def leave (who : Nat) (g : Gate) : List Nat × Gate :=
  if g.granted.contains who then grant 1 { g with granted := g.granted.erase who }
  else ([], { g with waiting := g.waiting.erase who })

end Gate

end ConnectionPool
