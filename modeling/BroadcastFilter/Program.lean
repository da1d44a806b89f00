import BroadcastFilter.Files

/-!
Programs that read files, write on two streams, and end with a value, with a failure, or by leaving
at once with an exit code. A program is what it asks for step by step, so what it has written when
it fails is a fact about the program. The files at hand decide what comes of it.
-/

namespace BroadcastFilter

/-- How a program ends. -/
inductive Ending (E A : Type) where
  | done (a : A)
  | failed (e : E)
  | exited (code : Nat)
deriving DecidableEq

/-- What is asked for next, and how it goes on from there. -/
inductive Program (E A : Type) where
  | ended (how : Ending E A)
  | read (path : String) (next : Except ReadFault String → Program E A)
  /-- Writes on the standard output. -/
  | print (text : String) (next : Program E A)
  /-- Writes on the stream for errors. -/
  | report (text : String) (next : Program E A)

namespace Program

variable {E F A B : Type}

/-- Goes on as the ending says. -/
def continueWith (goOn : Ending E A → Program F B) : Program E A → Program F B
  | ended how => goOn how
  | read path next => read path fun text => (next text).continueWith goOn
  | print text next => print text (next.continueWith goOn)
  | report text next => report text (next.continueWith goOn)

instance : Monad (Program E) where
  pure a := ended (.done a)
  bind x f := x.continueWith fun
    | .done a => f a
    | .failed e => ended (.failed e)
    | .exited code => ended (.exited code)

/-- Goes on after a failure; what has been written before it stays written. -/
def handle (x : Program E A) (f : E → Program F A) : Program F A :=
  x.continueWith fun
    | .done a => ended (.done a)
    | .failed e => f e
    | .exited code => ended (.exited code)

def ofExcept : Except E A → Program E A
  | .ok a => ended (.done a)
  | .error e => ended (.failed e)

def fail (e : E) : Program E A := ended (.failed e)

def exit (code : Nat) : Program E A := ended (.exited code)

/-- The text at a path, if it can be read. -/
def text (path : String) : Program E (Except ReadFault String) := read path pure

def printText (text : String) : Program E Unit := print text (pure ())

def reportText (text : String) : Program E Unit := report text (pure ())

end Program

/-- What a program has written on its streams, and how it has ended. -/
structure Transcript (E A : Type) where
  output : String
  errors : String
  ending : Ending E A
deriving DecidableEq

namespace Transcript

variable {E F A B : Type}

/-- What comes of a program that goes on as the ending says. -/
def continueWith (t : Transcript E A) (goOn : Ending E A → Transcript F B) : Transcript F B :=
  let rest := goOn t.ending
  ⟨t.output ++ rest.output, t.errors ++ rest.errors, rest.ending⟩

/-- Nothing has been written. -/
def silent : Except E A → Transcript E A
  | .ok a => ⟨"", "", .done a⟩
  | .error e => ⟨"", "", .failed e⟩

end Transcript

namespace Program

variable {E F A B : Type}

/-- What comes of a program beside the given files. -/
def on (files : Files) : Program E A → Transcript E A
  | ended how => ⟨"", "", how⟩
  | read path next => (next (files path)).on files
  | print text next =>
    let rest := next.on files
    { rest with output := text ++ rest.output }
  | report text next =>
    let rest := next.on files
    { rest with errors := text ++ rest.errors }

/-- What is written comes in order, and what comes after an ending depends on it alone. -/
theorem on_continueWith (files : Files) (x : Program E A) (goOn : Ending E A → Program F B) :
    (x.continueWith goOn).on files = (x.on files).continueWith fun how => (goOn how).on files := by
  induction x with
  | ended how => simp [continueWith, on, Transcript.continueWith]
  | read path next ih => exact ih (files path)
  | print text next ih => simp [continueWith, on, ih, Transcript.continueWith, String.append_assoc]
  | report text next ih => simp [continueWith, on, ih, Transcript.continueWith, String.append_assoc]

@[simp] theorem on_ofExcept (files : Files) (x : Except E A) :
    (ofExcept x).on files = .silent x := by
  cases x <;> rfl

@[simp] theorem on_printText (files : Files) (text : String) :
    (printText text : Program E Unit).on files = ⟨text, "", .done ()⟩ := by
  simp [printText, on, pure]

@[simp] theorem on_reportText (files : Files) (text : String) :
    (reportText text : Program E Unit).on files = ⟨"", text, .done ()⟩ := by
  simp [reportText, on, pure]

/-- After a program that has done its part in silence, the next one starts as if it were the first.
-/
theorem on_bind_of_ok {files : Files} {x : Program E A} {a : A} (h : x.on files = .silent (.ok a))
    (f : A → Program E B) : (x >>= f).on files = (f a).on files := by
  refine (on_continueWith files x _).trans ?_
  rw [h]
  simp [Transcript.continueWith, Transcript.silent]

/-- After a program that has failed in silence, nothing is done any more. -/
theorem on_bind_of_error {files : Files} {x : Program E A} {e : E}
    (h : x.on files = .silent (.error e)) (f : A → Program E B) :
    (x >>= f).on files = .silent (.error e) := by
  refine (on_continueWith files x _).trans ?_
  rw [h]
  rfl

end Program

end BroadcastFilter
