import Copybook.Reader

/-!
The operations of a reader under one name, and calls of them one after the other. Every call finds
surroundings of its own, since files, log and sink may change between two calls. -/
namespace Copybook
namespace Reader

inductive Operation
  | init (p : Parameters)
  | read
  | close
  | enableTypeMode
  | typeTable
  | setSink (sink : Option Sink)

inductive Answer
  | done
  | object (o : Option DataObject)
  | table (t : TypeTable)
  deriving DecidableEq

def Outcome.map {α β : Type} (f : α → β) (o : Outcome α) : Outcome β :=
  ⟨o.reader, o.world, o.result.map f⟩

def perform (r : Reader) (w : World) : Operation → Outcome Answer
  | .init p => (r.init p w).map fun _ => .done
  | .read => (r.read w).map .object
  | .close => ⟨(r.close w).1, (r.close w).2, .ok .done⟩
  | .enableTypeMode =>
    ⟨r.enableTypeMode.1, w, (r.enableTypeMode.2.mapError .problem).map fun _ => .done⟩
  | .typeTable => ⟨r, w, (r.typeTable.mapError .problem).map .table⟩
  | .setSink sink => ⟨r, { w with sink := sink }, .ok .done⟩

structure Call where
  world : World
  operation : Operation

def call (r : Reader) (c : Call) : Outcome Answer := r.perform c.world c.operation

def outcomes (r : Reader) : List Call → List (Outcome Answer)
  | [] => []
  | c :: rest => r.call c :: (r.call c).reader.outcomes rest

def after (r : Reader) : List Call → Reader
  | [] => r
  | c :: rest => (r.call c).reader.after rest

end Reader
end Copybook
