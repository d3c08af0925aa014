/-!
# Status codes

Every handler answers with a `Status` and so does every raise. Zero is success, anything else is a
failure. The named codes are those that the bus itself produces; handlers may answer with any other.
-/

namespace EventBus

/-- The outcome of a handler or of a dispatch. -/
structure Status where
  code : Int32
  deriving DecidableEq, Repr

namespace Status

def ok : Status := ⟨0⟩

def failure : Status := ⟨-1⟩

def unauthorized : Status := ⟨-2⟩

def unknownSubscriber : Status := ⟨-3⟩

/-- A remote subscriber could not be reached or did not answer. -/
def transport : Status := ⟨-4⟩

def panicked : Status := ⟨-5⟩

instance : Inhabited Status := ⟨ok⟩

def isOk (s : Status) : Bool :=
  s.code == 0

def isFailure (s : Status) : Bool :=
  s.code != 0

/-- Success for a true outcome, failure for a false one. -/
def ofBool (outcome : Bool) : Status :=
  if outcome then ok else failure

/-- The name of a code of the bus, `status(n)` for any other. -/
def text (s : Status) : String :=
  if s = ok then "ok"
  else if s = failure then "failure"
  else if s = unauthorized then "unauthorized"
  else if s = unknownSubscriber then "unknown_subscriber"
  else if s = transport then "transport"
  else if s = panicked then "panicked"
  else s!"status({s.code.toInt})"

@[simp]
theorem isFailure_eq_not_isOk (s : Status) : s.isFailure = !s.isOk := rfl

theorem isOk_iff {s : Status} : s.isOk ↔ s = ok := by
  cases s
  simp [isOk, ok]

end Status

end EventBus
