/-!
# Service keys

A service is addressed by area, service number and area version; an operation of it by one number
more. Providers are bound per service, so bindings drop the operation with `Service.whole`.
-/

namespace Mal

/-- Area, service, operation and area version of a message. -/
structure Service where
  area : UInt16 := 0
  service : UInt16 := 0
  operation : UInt16 := 0
  version : UInt8 := 0
  deriving DecidableEq

namespace Service

/-- The service an operation belongs to, written as operation 0. -/
def whole (s : Service) : Service :=
  { s with operation := 0 }

/-- Another operation of the same service. -/
def withOperation (s : Service) (operation : UInt16) : Service :=
  { s with operation := operation }

/-- A service as it is written in error texts: area, service and operation with colons, then the
    version. -/
def text (s : Service) : String :=
  s!"{s.area.toNat}:{s.service.toNat}:{s.operation.toNat}/v{s.version.toNat}"

/-- Operations of one service share the whole service. -/
@[simp] theorem whole_withOperation (s : Service) (operation : UInt16) :
    (s.withOperation operation).whole = s.whole := rfl

@[simp] theorem whole_whole (s : Service) : s.whole.whole = s.whole := rfl

end Service

end Mal
