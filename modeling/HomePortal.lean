import HomePortal.Http.Script
import HomePortal.Hub.File
import HomePortal.Hub.Memory
import HomePortal.Hub.Path
import HomePortal.Hub.Rest
import HomePortal.Portal
import HomePortal.Proofs.Config.Mention
import HomePortal.Proofs.Config.Nesting
import HomePortal.Proofs.Config.Payload
import HomePortal.Proofs.Portal.Editable
import HomePortal.Proofs.Portal.Listing
import HomePortal.Proofs.Portal.Effects
import HomePortal.Proofs.Portal.Isolation
import HomePortal.Proofs.Http.Body
import HomePortal.Proofs.Hub.Rest
import HomePortal.Proofs.Portal.Requests
import HomePortal.Proofs.Portal.Switching
import HomePortal.Proofs.Portal.Widening
import HomePortal.Proofs.Yaml.TextFailure
import HomePortal.Proofs.Yaml.TreeFailure
import HomePortal.Proofs.Hub.Asking
import HomePortal.Proofs.Hub.Failure
import HomePortal.Proofs.Portal.Refusal
import HomePortal.Proofs.Hub.Storing
import HomePortal.Proofs.Portal.HalfDone
import HomePortal.Proofs.Yaml.Node
import HomePortal.Proofs.Yaml.Writer
import HomePortal.Proofs.Config.Normal
import HomePortal.Proofs.Hub.Kept
import HomePortal.Proofs.Hub.File
import HomePortal.Proofs.Hub.Mirror
import HomePortal.Proofs.Text.Digit
import HomePortal.Proofs.Portal.Mirror
import HomePortal.Proofs.Draft.Stable
import HomePortal.Proofs.Draft.Dump
import HomePortal.Proofs.Decimal.Rounding
import HomePortal.Proofs.Draft.Compile
import HomePortal.Proofs.Device.Offer
import HomePortal.Proofs.Draft.Overflow
import HomePortal.Proofs.Portal.Closed
import HomePortal.Proofs.Config.Keys
import HomePortal.Proofs.Device.Gate
import HomePortal.Proofs.Hub.Naming
import HomePortal.Proofs.Hub.Change
import HomePortal.Proofs.Config.Context
import HomePortal.Proofs.Config.Merge
import HomePortal.Proofs.Config.Visits
import HomePortal.Proofs.Draft.Attribute
import HomePortal.Proofs.Draft.Firing
import HomePortal.Proofs.Device.Call
import HomePortal.Proofs.Device.Level
import HomePortal.Proofs.Device.Eligible
import HomePortal.Proofs.Text.Lower
import HomePortal.Proofs.Config.Named
import HomePortal.Proofs.Portal.Case
import HomePortal.Proofs.Hub.Path
import HomePortal.Proofs.Hub.Content
import HomePortal.Proofs.Hub.Endpoint
import HomePortal.Proofs.Hub.Listing
import HomePortal.Proofs.Hub.Distinct
import HomePortal.Proofs.Config.Lossless
import HomePortal.Proofs.Device.Slider
