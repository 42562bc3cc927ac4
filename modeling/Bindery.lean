import Bindery.Conversion
import Bindery.Declaration.Json
import Bindery.Storage.Exchange
import Bindery.Settings.Json
import Bindery.Proofs.Hierarchy
import Bindery.Proofs.Holding
import Bindery.Proofs.Moves
import Bindery.Proofs.Soundness
import Bindery.Proofs.Traversal
import Bindery.Proofs.Passes.Naming
import Bindery.Proofs.Passes.Sizing
import Bindery.Proofs.Passes.Grouping
import Bindery.Proofs.Passes.Handles
import Bindery.Proofs.Runs
import Bindery.Proofs.Arrivals
import Bindery.Proofs.Types
import Bindery.Proofs.Returns
import Bindery.Proofs.Contents
import Bindery.Proofs.Slots
import Bindery.Proofs.Converted
import Bindery.Proofs.Fillings
import Bindery.Proofs.Ownership
import Bindery.Proofs.Rendering
import Bindery.Proofs.Owners
import Bindery.Proofs.Placements
import Bindery.Proofs.Parameters
import Bindery.Proofs.Promotions
import Bindery.Proofs.Calls
import Bindery.Proofs.Narrowing
import Bindery.Proofs.Resolution
import Bindery.Proofs.Finished
import Bindery.Proofs.Reach
import Bindery.Proofs.Rest
import Bindery.Proofs.Lasting
import Bindery.Proofs.Later
import Bindery.Proofs.Guarded.Basic
import Bindery.Proofs.Guarded.Grouping
import Bindery.Proofs.Pointing
import Bindery.Proofs.Guarded.Sizing
import Bindery.Proofs.Guarded.Members
import Bindery.Proofs.Guarded.Rendering
import Bindery.Proofs.Guarded.Conversion
import Bindery.Proofs.Nesting
import Bindery.Proofs.Following
import Bindery.Proofs.Thrown
import Bindery.Proofs.Relocation
import Bindery.Proofs.Settling
import Bindery.Proofs.HandleKinds
import Bindery.Proofs.Resting
import Bindery.Proofs.Turns
import Bindery.Proofs.Seats
import Bindery.Proofs.Synthesis
import Bindery.Proofs.Statics
import Bindery.Proofs.Marks
import Bindery.Proofs.FixedPoint
import Bindery.Proofs.Formation
import Bindery.Proofs.Labels
import Bindery.Proofs.Hearing
import Bindery.Proofs.Listening
import Bindery.Proofs.Stations
import Bindery.Proofs.Retained
import Bindery.Proofs.Attachments
import Bindery.Proofs.Partners
import Bindery.Proofs.Pairs
import Bindery.Proofs.Sight
import Bindery.Proofs.Stopping
import Bindery.Proofs.Companions
import Bindery.Proofs.Lengths
import Bindery.Proofs.Words
import Bindery.Proofs.Standing
import Bindery.Proofs.Sharing
import Bindery.Proofs.Joining
import Bindery.Proofs.ErrorParameters
import Bindery.Proofs.Posts
import Bindery.Proofs.Namesakes
import Bindery.Proofs.Enumerators
import Bindery.Proofs.Spellings
import Bindery.Proofs.Json.Declarations
import Bindery.Proofs.Json.Settings
