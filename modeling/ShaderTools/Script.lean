import ShaderTools.FileSystem.Action
import ShaderTools.Http.Exchange
import ShaderTools.Log

/-!
Runs of a program. A script is a run as what it asks of its surroundings, one thing at a time, and
how it goes on with each answer. It can be run in a world that is a value, where its effects can
be reasoned about, and by the system itself. Running a script that is followed by another is
running the one and then the other, and so it is with what the two give notice of. An event for the
log has no effect on the world.
-/

namespace ShaderTools

open Http (Request Response Server Silence)
open Log (Event Notice)

/-- Where a program writes to. -/
inductive Channel where
  | output
  | errors
  deriving DecidableEq, Repr

/-- A run that ends with a value. -/
inductive Script (α : Type) where
  | done (value : α)
  | write (channel : Channel) (text : Text) (next : Script α)
  /-- Something for the log. -/
  | event (event : Event) (next : Script α)
  /-- The next line of the input, with its end; empty if the input has ended. -/
  | readLine (next : Bytes → Script α)
  | readFile (path : Path) (next : Except Failure Bytes → Script α)
  | workingPath (next : Except Failure Path → Script α)
  | change (change : FileChange) (next : Except Failure Unit → Script α)
  | request (request : Request) (next : Except Silence Response → Script α)

namespace Script

/-- A script followed by another one that goes on with its value. -/
def andThen {α β : Type} : Script α → (α → Script β) → Script β
  | done value, f => f value
  | write channel text next, f => .write channel text (next.andThen f)
  | event e next, f => .event e (next.andThen f)
  | readLine next, f => .readLine fun line => (next line).andThen f
  | readFile path next, f => .readFile path fun result => (next result).andThen f
  | workingPath next, f => .workingPath fun result => (next result).andThen f
  | change c next, f => .change c fun result => (next result).andThen f
  | request r next, f => .request r fun answer => (next answer).andThen f

instance : Monad Script where
  pure := done
  bind := andThen

def print (channel : Channel) (text : Text) : Script Unit := .write channel text (.done ())

def log (e : Event) : Script Unit := .event e (.done ())

/-- Carries out a change. -/
def perform (c : FileChange) : Script (Except Failure Unit) := .change c .done

/-- A path as it is seen from the root. Only for a relative one is the working directory asked
for. -/
def absolute (p : Path) : Script (Except Failure Path) :=
  if p.isAbsolute then .done (.ok (p.absolute []))
  else .workingPath fun result => .done (result.map p.absolute)

end Script

/-- The surroundings of a run: what answers requests, the files, what is left of the input, the
requests made so far, and what was written so far. -/
structure World where
  server : Server
  files : FileSystem
  input : Bytes
  requests : List Request
  output : Text
  errors : Text

namespace World

/-- The world after a text was written. -/
def write (w : World) : Channel → Text → World
  | .output, text => { w with output := w.output ++ text }
  | .errors, text => { w with errors := w.errors ++ text }

/-- The world after a line of the input was taken. -/
def dropLine (w : World) : World := { w with input := Bytes.afterFirstLine w.input }

/-- The outcome of a change, and the world after it. -/
def change (w : World) (c : FileChange) : Except Failure Unit × World :=
  match c.perform w.files with
  | .ok _ after => (.ok (), { w with files := after })
  | .error failure after => (.error failure, { w with files := after })

/-- The answer to a request, and the world after it. -/
def request (w : World) (r : Request) : Except Silence Response × World :=
  let made := w.requests ++ [r]
  (w.server made, { w with requests := made })

end World

namespace Script

def run {α : Type} : Script α → World → α × World
  | done value, w => (value, w)
  | write channel text next, w => next.run (w.write channel text)
  | event _ next, w => next.run w
  | readLine next, w => (next (Bytes.firstLine w.input)).run w.dropLine
  | readFile path next, w => (next (w.files.read path)).run w
  | workingPath next, w => (next w.files.currentDirectory).run w
  | change c next, w => (next (w.change c).1).run (w.change c).2
  | request r next, w => (next (w.request r).1).run (w.request r).2

/-- What is given notice of by writing a text. -/
def noticesOf : Channel → Text → List Notice
  | .output, _ => []
  | .errors, text => [.message text]

/-- What a run gives notice of, where errors are told. -/
def notices {α : Type} : Script α → World → List Notice
  | done _, _ => []
  | write channel text next, w => noticesOf channel text ++ next.notices (w.write channel text)
  | event e next, w => .event e :: next.notices w
  | readLine next, w => (next (Bytes.firstLine w.input)).notices w.dropLine
  | readFile path next, w => (next (w.files.read path)).notices w
  | workingPath next, w => (next w.files.currentDirectory).notices w
  | change c next, w => (next (w.change c).1).notices (w.change c).2
  | request r next, w => (next (w.request r).1).notices (w.request r).2

@[simp] theorem run_pure {α : Type} (value : α) (w : World) :
    (pure value : Script α).run w = (value, w) := rfl

@[simp] theorem run_done {α : Type} (value : α) (w : World) :
    (done value).run w = (value, w) := rfl

theorem run_andThen {α β : Type} (s : Script α) (f : α → Script β) (w : World) :
    (s.andThen f).run w = (f (s.run w).1).run (s.run w).2 := by
  induction s generalizing w with
  | done value => rfl
  | write channel text next ih => exact ih _
  | event e next ih => exact ih _
  | readLine next ih => exact ih _ _
  | readFile path next ih => exact ih _ _
  | workingPath next ih => exact ih _ _
  | change c next ih => exact ih _ _
  | request r next ih => exact ih _ _

@[simp] theorem run_bind {α β : Type} (s : Script α) (f : α → Script β) (w : World) :
    (s >>= f).run w = (f (s.run w).1).run (s.run w).2 := run_andThen s f w

@[simp] theorem run_print (channel : Channel) (text : Text) (w : World) :
    (print channel text).run w = ((), w.write channel text) := rfl

@[simp] theorem run_log (e : Event) (w : World) : (log e).run w = ((), w) := rfl

@[simp] theorem run_perform (c : FileChange) (w : World) : (perform c).run w = w.change c := rfl

@[simp] theorem run_absolute (p : Path) (w : World) :
    (absolute p).run w = (w.files.absolute p, w) := by
  unfold absolute FileSystem.absolute
  split <;> rfl

theorem notices_andThen {α β : Type} (s : Script α) (f : α → Script β) (w : World) :
    (s.andThen f).notices w = s.notices w ++ (f (s.run w).1).notices (s.run w).2 := by
  induction s generalizing w with
  | done value => rfl
  | write channel text next ih =>
      simp only [andThen, notices, run, ih, List.append_assoc]
  | event e next ih => simp only [andThen, notices, run, ih, List.cons_append]
  | readLine next ih => exact ih _ _
  | readFile path next ih => exact ih _ _
  | workingPath next ih => exact ih _ _
  | change c next ih => exact ih _ _
  | request r next ih => exact ih _ _

@[simp] theorem notices_bind {α β : Type} (s : Script α) (f : α → Script β) (w : World) :
    (s >>= f).notices w = s.notices w ++ (f (s.run w).1).notices (s.run w).2 :=
  notices_andThen s f w

@[simp] theorem notices_pure {α : Type} (value : α) (w : World) :
    (pure value : Script α).notices w = [] := rfl

@[simp] theorem notices_print (channel : Channel) (text : Text) (w : World) :
    (print channel text).notices w = noticesOf channel text := List.append_nil _

@[simp] theorem notices_log (e : Event) (w : World) : (log e).notices w = [.event e] := rfl

end Script

end ShaderTools
