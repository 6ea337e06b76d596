/-! # Options of a resolver -/

namespace PathTemplate

/-- What a resolver does besides matching. Everything is on unless it is turned off. -/
structure Options where
  /-- A path has to match from its first character on. -/
  anchorStart : Bool := true
  /-- A path has to match up to its last character. -/
  anchorEnd : Bool := true
  /-- The occurrences of one placeholder have to agree. -/
  checkDuplicates : Bool := true
  /-- Answers are remembered from the start. -/
  cacheEnabled : Bool := true
  deriving DecidableEq, Inhabited

namespace Options

/-- The name of one option. -/
inductive Key
  | anchorStart
  | anchorEnd
  | checkDuplicates
  | cacheEnabled
  deriving DecidableEq

namespace Key

/-- The options in the order in which they are written. -/
def all : List Key := [anchorStart, anchorEnd, checkDuplicates, cacheEnabled]

/-- How an option is written. -/
def name : Key → String
  | anchorStart => "anchor_start"
  | anchorEnd => "anchor_end"
  | checkDuplicates => "check_duplicate_placeholders"
  | cacheEnabled => "cache_enabled"

def ofName? (name : String) : Option Key :=
  all.find? (·.name = name)

theorem ofName?_name (k : Key) : ofName? k.name = some k := by
  cases k <;> decide

end Key

def get (o : Options) : Key → Bool
  | .anchorStart => o.anchorStart
  | .anchorEnd => o.anchorEnd
  | .checkDuplicates => o.checkDuplicates
  | .cacheEnabled => o.cacheEnabled

def set (o : Options) (value : Bool) : Key → Options
  | .anchorStart => { o with anchorStart := value }
  | .anchorEnd => { o with anchorEnd := value }
  | .checkDuplicates => { o with checkDuplicates := value }
  | .cacheEnabled => { o with cacheEnabled := value }

theorem get_set (o : Options) (value : Bool) (k l : Key) :
    (o.set value k).get l = if k = l then value else o.get l := by
  cases k <;> cases l <;> rfl

/-- Options are equal when every one of them is. -/
theorem ext_get {o p : Options} (h : ∀ k, o.get k = p.get k) : o = p := by
  have h₁ := h .anchorStart
  have h₂ := h .anchorEnd
  have h₃ := h .checkDuplicates
  have h₄ := h .cacheEnabled
  cases o; cases p
  simp_all [get]

end Options

end PathTemplate
