import Copybook.Status

/-!
The operations of a status log under one name. -/
namespace Copybook
namespace StatusLog

inductive Operation
  | append (line : Text)
  | banner (line : Text)
  | clear
  | suppress (on : Bool)
  | setSink (sink : Option Sink)

def perform (s : StatusLog) (w : World) : Operation → Outcome
  | .append line => s.append line w
  | .banner line => s.banner line w
  | .clear => ⟨s.clear, w, none⟩
  | .suppress on => ⟨{ s with suppressed := on }, w, none⟩
  | .setSink sink => ⟨s, { w with sink := sink }, none⟩

end StatusLog
end Copybook
