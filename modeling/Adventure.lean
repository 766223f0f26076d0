import Adventure.Overrides
import Adventure.Proofs.Cues
import Adventure.Proofs.Outcome
import Adventure.Session.Run
import Adventure.WorldFile
import Adventure.Proofs.Scenes
import Adventure.Proofs.Messages
import Adventure.Proofs.Loading
import Adventure.Proofs.Scripts
import Adventure.Proofs.Actions
import Adventure.Proofs.Moves
import Adventure.Proofs.Invariants
import Adventure.Proofs.Sessions
import Adventure.Proofs.Steps
import Adventure.Proofs.Depth
import Adventure.Proofs.MessageBox
import Adventure.Proofs.SingleLoad
import Adventure.Proofs.Registration
import Adventure.Proofs.Containment
import Adventure.Proofs.WellFormed
import Adventure.Proofs.Soundness
import Adventure.Proofs.Growth
import Adventure.Proofs.CurrentScene
import Adventure.Proofs.LoadedStages
import Adventure.Proofs.Transitions
import Adventure.Proofs.Screen
import Adventure.Proofs.Veil
import Adventure.Proofs.CodeInput
import Adventure.Proofs.Submission
import Adventure.Proofs.Answers
import Adventure.Proofs.Settlement
import Adventure.Proofs.Rediscovery
import Adventure.Proofs.FailedSubmission
import Adventure.Proofs.FailedAnswer
import Adventure.Proofs.Ambience
import Adventure.Proofs.Indicator
import Adventure.Proofs.Provenance
import Adventure.Proofs.Answerable
import Adventure.Proofs.Replay
import Adventure.Proofs.Oblivion
import Adventure.Proofs.Restart
import Adventure.Proofs.Validity
import Adventure.Proofs.Queue
import Adventure.Proofs.Arming
import Adventure.Proofs.Timers
import Adventure.Proofs.CueLog
import Adventure.Proofs.Inheritance
import Adventure.Proofs.Standing
import Adventure.Proofs.Delivery
import Adventure.Proofs.AnswerTexts
import Adventure.Proofs.FailedScript
import Adventure.Proofs.FirstEntry
import Adventure.Proofs.References
import Adventure.Proofs.Termination
import Adventure.Proofs.Refresh
import Adventure.Proofs.Activity
import Adventure.Proofs.Guards
import Adventure.Proofs.Reloading
import Adventure.Proofs.Independence
import Adventure.Proofs.Inlining
import Adventure.Proofs.Footprints
import Adventure.Proofs.Rounding
import Adventure.Proofs.Delays
import Adventure.Proofs.SavedGames
import Adventure.Proofs.Equality
import Adventure.Proofs.EventLog
import Adventure.Proofs.ActionTrees
import Adventure.Proofs.KeyOrder
