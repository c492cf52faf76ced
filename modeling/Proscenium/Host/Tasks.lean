import Proscenium.Host.Pointer

/-!
# Running queued work

A queued task either presents a view or applies a widget change. Draining runs the queue
through the task loop (`Engine.runPending`) and answers the number of tasks run.

The drain's budget bounds the tasks it can take. Only presenting a view queues further work,
and only through the card tables' layout handlers, each of which queues four sprite changes per
card of its table. So every queued task accounts for at most itself plus
`4 · cards · handlers` more, where `cards` counts the cards of all tables and `handlers` the
members of all registries; neither grows while a drain runs.
-/

namespace Proscenium

/-- Run one queued task. -/
def runTask : SceneTask → Act Unit
  | .present v => presentView v
  | t => applyWidgetTask t

namespace World

/-- Cards on all tables. -/
def cardCount (w : World) : Nat := w.boards.foldl (fun n b => n + b.cards.length) 0

/-- Members of all registries. -/
def handlerCount (w : World) : Nat := w.registries.foldl (fun n r => n + r.size) 0

/-- An upper bound on the tasks one drain of the world can run. -/
def drainBudget (w : World) : Nat :=
  w.loop.queue.length * (1 + 4 * w.cardCount * w.handlerCount) + 1

end World

/-- The task loop of the world. -/
def sceneEngine : Engine World SceneTask where
  loop := World.loop
  setLoop w l := { w with loop := l }
  exec t w :=
    match runTask t w with
    | .ok _ w' => (w', none)
    | .error f w' => (w', some f)
  budget := World.drainBudget

/-- Run every queued task; answers how many ran. -/
def drain : Act Nat := fun w =>
  match sceneEngine.runPending w with
  | (w', .ok n) => .ok n w'
  | (w', .error f) => .error f w'

end Proscenium
