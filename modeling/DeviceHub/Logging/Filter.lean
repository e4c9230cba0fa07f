import DeviceHub.Logging.Directive
import DeviceHub.Logging.Record

/-!
Which records are logged and which spans are kept, as `build_filter` or `RUST_LOG` has it.  A
directive that asks nothing of spans is for all records of a target; of those for a record the most
specific counts.  A directive that asks for a span, or for a field of one, lets records pass that
are told within such a span.
-/
namespace DeviceHub.Logging

/-- Later directives stand in for earlier ones that ask the same. -/
structure Filter where
  directives : List Directive
  deriving DecidableEq

/-- Zero for none. -/
def depth (level : Option Level) : Nat :=
  (level.map Level.rank).getD 0

namespace Directive

def isStatic (d : Directive) : Bool :=
  d.span.isNone && d.field.all (·.value.isNone)

def isDynamic (d : Directive) : Bool :=
  d.span.isSome || d.field.isSome

def isFor (target : String) (d : Directive) : Bool :=
  d.target.all (Text.startsWith · target)

/-- The fields of a span are not looked at. -/
def concerns (target : String) (fields : Option (List String)) (d : Directive) : Bool :=
  d.isStatic && d.isFor target && fields.all fun names => d.field.all (names.contains ·.name)

def concernsSpan (s : Span) (d : Directive) : Bool :=
  d.isDynamic && d.isFor s.target && d.span.all (· == s.name) &&
    d.field.all fun f => (s.details.lookup f.name).isSome

def FieldValue.holds (detail : Detail) : FieldValue → Bool
  | .number => false
  | .pattern _ p =>
    match detail with
    | .text s | .plain s => p.accepts s
    | .int _ => false

def holdsFor (s : Span) (d : Directive) : Bool :=
  match d.field with
  | some ⟨name, some value⟩ =>
    (s.details.lookup name).any fun detail => FieldValue.holds detail value
  | _ => true

/-- The level apart; patterns are told apart by how they are written. -/
def subject (d : Directive) :
    Option String × Option String × Option (String × Option (Option String)) :=
  (d.target, d.span, d.field.map fun f => (f.name, f.value.map fun
    | .number => none
    | .pattern written _ => some written))

/-- The one with the longer target counts, then one that asks for a field, then the one with the
later field name. -/
def yieldsTo (d e : Directive) : Bool :=
  let size (d : Directive) : Nat := (d.target.map fun t => t.utf8ByteSize + 1).getD 0
  size d < size e ||
    (size d == size e && match d.field, e.field with
      | none, _ => true
      | some _, none => false
      | some f, some g => !(g.name < f.name : Bool))

end Directive

namespace Filter

/-- What is malformed is passed over, and when nothing is left only errors pass.  There is no filter
when a part cuts a character. -/
def ofText? (s : String) : Option Filter :=
  let parts := ((Text.splitOnChar ',' s).filter (· ≠ "")).map Directive.read
  if parts.any fun | .error .cutsCharacter => true | _ => false then none
  else
    match parts.filterMap Except.toOption with
    | [] => some ⟨[{ level := some .error }]⟩
    | directives => some ⟨directives⟩

def quiet : List String :=
  ["rumqttc", "rustls", "tokio"]

/-- Only warnings of quiet targets pass. -/
def ofLevel (level : Level) : Filter :=
  ⟨{ level := some level } ::
    quiet.map fun target => { target := some target, level := some .warn }⟩

def directive? (f : Filter) (target : String) (fields : Option (List String)) : Option Directive :=
  (f.directives.filter (·.concerns target fields)).foldl (fun best d =>
    match best with
    | none => some d
    | some b => if b.yieldsTo d then some d else some b) none

def passes (f : Filter) (depths : List Nat) (level : Level) (target : String)
    (fields : Option (List String)) : Bool :=
  depths.any (level.rank ≤ ·) ||
    (f.directive? target fields).any fun d => level.rank ≤ depth d.level

def spanDirectives (s : Span) (f : Filter) : List Directive :=
  latest (f.directives.filter (·.concernsSpan s))
where
  latest : List Directive → List Directive
    | [] => []
    | d :: rest =>
      if rest.any fun e => e.subject == d.subject then latest rest else d :: latest rest

/-- Everything, as long as values of fields are asked for. -/
def deepest (f : Filter) : Nat :=
  if f.directives.any fun d => d.field.any (·.value.isSome) then Level.trace.rank
  else f.directives.foldl (fun n d => max n (depth d.level)) 0

def spanLevel : Level := .info

def keeps (f : Filter) (depths : List Nat) (s : Span) : Bool :=
  spanLevel.rank ≤ f.deepest &&
    (!(f.spanDirectives s).isEmpty || f.passes depths spanLevel s.target none)

def depthWithin? (f : Filter) (s : Span) : Option Nat :=
  match f.spanDirectives s with
  | [] => none
  | directives =>
    some ((directives.filter (·.holdsFor s)).foldl (fun n d => max n (depth d.level)) 0)

def keptSpans (f : Filter) (spans : List Span) : List Span × List Nat :=
  spans.foldl (fun (kept, depths) s =>
    if f.keeps depths s then (kept ++ [s], depths ++ (f.depthWithin? s).toList)
    else (kept, depths)) ([], [])

/-- The begin and end of a span only when those are asked for. -/
def logs (f : Filter) (spans : Bool) (r : Record) : Bool :=
  if r.entered then
    f.passes (f.keptSpans r.scope).2 r.level r.target (some ("message" :: r.details.map Prod.fst))
  else spans && r.scope.getLast?.any (f.keeps (f.keptSpans r.scope.dropLast).2)

/-- A record is told of the spans that are kept. -/
def record? (f : Filter) (spans : Bool) (r : Record) : Option Record :=
  if f.logs spans r then some { r with scope := (f.keptSpans r.scope).1 } else none

end Filter
end DeviceHub.Logging
