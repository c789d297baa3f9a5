import Likeness.Grammar.Part

/-!
# Sessions with branching cursors

A session works on one text with a stack of cursors. A branch is a copy of the top cursor that is
either dropped or committed into the one below it. The furthest place that was marked as accepted is
shared by all branches, survives those that are dropped, and only grows.
-/

namespace Likeness

/-- A stack of cursors in one text. Places are noted in `reach` only if the session is tracked. -/
structure Session where
  source : String
  tracked : Bool
  top : Cursor
  below : List Cursor
  reach : Cursor

namespace Session

/-- What is done with the top cursor. -/
inductive Action where
  | fork
  | drop
  | commit
  | advance (bytes : Nat)
  | mark
  | remaining
  | source
  | furthest
  | equal
  | next (trivia : Trivia)
  | skipTrivia
  | tokenize (trivia : Trivia)
  | build (kind : PartKind)

/-- What an action answers. -/
inductive Reply where
  | nothing
  | noBranch
  | committed (location : Location)
  | text (text : String)
  | place (cursor : Cursor)
  | truth (value : Bool)
  | token (token : Option Token)
  | tokens (tokens : Except TokenizeError (List Token))
  | part (part : Option Part)

/-- A session at the start of a text. -/
def start (source : String) (tracked : Bool) : Session :=
  let cursor := Cursor.ofSource source
  ⟨source, tracked, cursor, [], cursor⟩

/-- How many cursors there are. -/
def depth (session : Session) : Nat := session.below.length + 1

/-- Note that text up to a cursor has been accepted. -/
def record (session : Session) (cursor : Cursor) : Session :=
  if session.tracked then { session with reach := session.reach.further cursor } else session

/-- The furthest place marked, or the top cursor if that is further. -/
def furthest (session : Session) : Cursor :=
  if session.tracked then session.top.further session.reach else session.top

/-- What the builders work on: the top cursor, and the furthest place marked if places are noted. -/
def stance (session : Session) : Stance :=
  ⟨session.top, if session.tracked then some session.reach else none⟩

/-- Build a part at the top cursor, which moves past it if there is one. -/
def build (session : Session) (kind : PartKind) : Option Part × Session :=
  let (part, stance) := Part.builder kind session.stance
  (part, { session with top := stance.cursor, reach := stance.reach.getD session.reach })

/-- Take an action. -/
def perform (session : Session) : Action → Reply × Session
  | .fork => (.nothing, { session with below := session.top :: session.below })
  | .drop =>
    match session.below with
    | [] => (.noBranch, session)
    | parent :: below => (.nothing, { session with top := parent, below })
  | .commit =>
    match session.below with
    | [] => (.noBranch, session)
    | parent :: below =>
      (.committed (parent.locationTo session.top), { session with below })
  | .advance bytes => (.nothing, { session with top := session.top.advance bytes })
  | .mark => (.nothing, session.record session.top)
  | .remaining => (.text session.top.remaining, session)
  | .source => (.text session.source, session)
  | .furthest => (.place session.furthest, session)
  | .equal => (.truth (session.below.head?.any (· = session.top)), session)
  | .next trivia =>
    match session.top.next trivia with
    | some spot => (.token (some spot.token), { session with top := spot.next })
    | none => (.token none, session)
  | .skipTrivia => (.nothing, { session with top := session.top.skipTrivia })
  | .tokenize trivia =>
    match session.top.tokenize trivia with
    | .ok (tokens, top) => (.tokens (.ok tokens), { session with top })
    | .error error => (.tokens (.error error), session)
  | .build kind =>
    let (part, session) := session.build kind
    (.part part, session)

end Session

end Likeness
