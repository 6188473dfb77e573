import Telemetry.Bytes

/-!
# A pool of reusable buffers

A pool hands out buffers that were given back before it makes new ones.  A
buffer is emptied when it is given back, and one that comes back while enough
are idle is dropped.  A buffer has a second part, for what is made of its content.
-/

namespace Telemetry

/-- A buffer, with the number it was made under. -/
structure Buffer where
  /-- The number of buffers made before it. -/
  number : Nat
  /-- What has been written to it. -/
  content : Bytes := []
  /-- What has been written to its second part. -/
  zipped : Bytes := []
deriving DecidableEq

/-- The buffer with nothing left in it. -/
def Buffer.reset (buffer : Buffer) : Buffer :=
  { buffer with content := [], zipped := [] }

/-- A pool of buffers. -/
structure Pool where
  /-- The most buffers that are kept idle. -/
  maxIdle : Nat
  /-- The number of buffers made so far. -/
  made : Nat := 0
  /-- The idle buffers, the one given back last in front. -/
  idle : List Buffer := []

namespace Pool

/-- Takes an idle buffer, or a new one when none is idle. -/
def get (pool : Pool) : Buffer × Pool :=
  match pool.idle with
  | [] => ({ number := pool.made }, { pool with made := pool.made + 1 })
  | buffer :: rest => (buffer, { pool with idle := rest })

/-- Gives a buffer back. -/
def put (pool : Pool) (buffer : Buffer) : Pool :=
  if pool.idle.length < pool.maxIdle then
    { pool with idle := buffer.reset :: pool.idle }
  else pool

/-- The shown text of a pool. -/
def display (pool : Pool) : String :=
  "Pool \x7b idle: " ++ toString pool.idle.length ++ ", max_idle: " ++ toString pool.maxIdle
    ++ ", .. \x7d"

/-- A pool together with the buffers that named holders have. -/
structure Holders where
  /-- The pool. -/
  pool : Pool
  /-- Who holds which buffer; a name occurs once. -/
  held : List (String × Buffer) := []

/-- What a holder does. -/
inductive Step where
  /-- Takes a buffer; one that the holder still has is given back afterwards. -/
  | get (holder : String)
  /-- Appends to the buffer, if the holder has one. -/
  | write (holder : String) (bytes : Bytes)
  /-- Replaces what is in the buffer, if the holder has one. -/
  | overwrite (holder : String) (content zipped : Bytes)
  /-- Gives the buffer back, if the holder has one. -/
  | put (holder : String)

namespace Holders

/-- The buffer of a holder. -/
def buffer? (holders : Holders) (holder : String) : Option Buffer :=
  holders.held.lookup holder

/-- The buffers of all other holders. -/
def others (holders : Holders) (holder : String) : List (String × Buffer) :=
  holders.held.filter fun entry => entry.1 != holder

/-- The state after one step. -/
def step (holders : Holders) : Step -> Holders
  | .get holder =>
      let (fresh, pool) := holders.pool.get
      let settled :=
        match holders.buffer? holder with
        | some old => pool.put old
        | none => pool
      ⟨settled, (holder, fresh) :: holders.others holder⟩
  | .write holder bytes =>
      match holders.buffer? holder with
      | some old =>
          { holders with
            held := (holder, { old with content := old.content ++ bytes }) ::
              holders.others holder }
      | none => holders
  | .overwrite holder content zipped =>
      match holders.buffer? holder with
      | some old =>
          { holders with held := (holder, ⟨old.number, content, zipped⟩) :: holders.others holder }
      | none => holders
  | .put holder =>
      match holders.buffer? holder with
      | some old => ⟨holders.pool.put old, holders.others holder⟩
      | none => holders

/-- The state after some steps. -/
def run (holders : Holders) (steps : List Step) : Holders :=
  steps.foldl step holders

end Holders

end Pool
end Telemetry
