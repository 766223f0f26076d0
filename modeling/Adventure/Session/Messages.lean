import Adventure.Session.Scenes

/-!
# Messages

One message is open at a time.  A notice has no buttons and is closed by a click anywhere; a
blocking message has buttons, each with a script, and is closed by one of them.

## Main definitions

* `Play.showNotice`, `Play.showBlocking`: open a message in place of another one.
* `Play.dismiss`, `Play.closeNotice`, `Play.clickButton`: close it.
-/

namespace Adventure.Play

/-- Opens a notice; arrows stay in sight.  What a blocking message has hidden stays hidden until the
notice is closed. -/
def showNotice (text : String) : Play Unit := do
  player fun p => { p with pending := none }
  cue (.showMessage text [])
  hideHotspots
  modify fun s => { s with noticeOpen := true }

/-- Opens a message with a script for each button. -/
def showBlocking (text : String) (buttons : List String) (scripts : List Script) : Play Unit := do
  player fun p => { p with pending := none }
  modify fun s => { s with noticeOpen := false }
  cue (.showMessage text buttons)
  hideInteractive
  player fun p => { p with pending := some scripts }

/-- Shows the objects and the code input of the current scene again. -/
def restoreInteractivity : Play Unit := do
  if (← get).player.currentScene.isNone then return
  refreshObjects
  refreshCodeInput

/-- Closes a notice. -/
def closeNotice : Play Unit := do
  modify fun s => { s with noticeOpen := false }
  cue .hideMessage
  restoreInteractivity

/-- A click anywhere: closes a notice if one is open. -/
def dismiss : Play Unit := do
  if (← get).noticeOpen then closeNotice

/-- A click on a button of the blocking message: closes it and runs the script of the button. -/
def clickButton (run : Script → Play Unit) (index : Nat) : Play Unit := do
  match (← get).player.pending with
  | none => throw .noOpenMessage
  | some scripts =>
    match scripts[index]? with
    | none => throw (.notFound .button s!"{index} (message has {scripts.length})")
    | some script =>
      -- The message is closed before the script runs, so that the script can open another one.
      player fun p => { p with pending := none }
      cue .hideMessage
      restoreInteractivity
      run script

end Adventure.Play
