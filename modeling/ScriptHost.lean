import ScriptHost.Handle.Scope
import ScriptHost.Main
import ScriptHost.Session.Step
import ScriptHost.Proofs.Entries
import ScriptHost.Proofs.Confinement
import ScriptHost.Proofs.Revoking
import ScriptHost.Proofs.Teardown
import ScriptHost.Proofs.Following
import ScriptHost.Proofs.Instances
import ScriptHost.Proofs.Declaring
import ScriptHost.Proofs.Terminating
import ScriptHost.Proofs.States
import ScriptHost.Proofs.Departing
import ScriptHost.Proofs.Falling
import ScriptHost.Proofs.Hatching
import ScriptHost.Proofs.Undoing
import ScriptHost.Proofs.Bookkeeping
import ScriptHost.Proofs.Closure
import ScriptHost.Proofs.Contributing
import ScriptHost.Proofs.Locating
import ScriptHost.Proofs.Imports
import ScriptHost.Proofs.Counting
import ScriptHost.Proofs.Generations
import ScriptHost.Proofs.Rebuilding
import ScriptHost.Proofs.Evaluating
import ScriptHost.Proofs.Lifecycles
import ScriptHost.Proofs.Answering
import ScriptHost.Proofs.Circles
import ScriptHost.Proofs.Calling
import ScriptHost.Proofs.Pointing
import ScriptHost.Proofs.Subscribing
import ScriptHost.Proofs.Alternating
import ScriptHost.Proofs.Callbacks
import ScriptHost.Proofs.Marshalling
import ScriptHost.Proofs.Annotating
import ScriptHost.Proofs.Indexing
import ScriptHost.Proofs.Polling
import ScriptHost.Proofs.Overloads
import ScriptHost.Proofs.Naming
import ScriptHost.Proofs.Unwinding
import ScriptHost.Proofs.Discovering
import ScriptHost.Proofs.Describing
import ScriptHost.Proofs.Uniting
import ScriptHost.Proofs.Tripping
import ScriptHost.Proofs.Normalizing
