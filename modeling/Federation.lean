import Federation.Invocation
import Federation.Json.Reader
import Federation.Json.Writer
import Federation.Proofs.Answer.Completeness
import Federation.Proofs.Answer.Explanation
import Federation.Proofs.Answer.Gathering
import Federation.Proofs.Call.Genuine
import Federation.Proofs.Call.Leniency
import Federation.Proofs.Call.Mistimed
import Federation.Proofs.Directory.Addresses
import Federation.Proofs.Directory.Nickname
import Federation.Proofs.Directory.Variants
import Federation.Proofs.Introspection.Decoding
import Federation.Proofs.Introspection.Inquiry
import Federation.Proofs.Introspection.Salvage
import Federation.Proofs.Invocation.Account
import Federation.Proofs.Invocation.Announcement
import Federation.Proofs.Invocation.Carriage
import Federation.Proofs.Invocation.Legality
import Federation.Proofs.Invocation.Order
import Federation.Proofs.Invocation.Summary
import Federation.Proofs.Invocation.TrustProofs
import Federation.Proofs.ResourceFormat
import Federation.Proofs.Setup.Layers
import Federation.Proofs.Url.Canonical
import Federation.Proofs.Version.Supporters
import Federation.Proofs.Version.Tally
import Federation.Proofs.Version.Vote
import Federation.Proofs.Workers.Sequence
import Federation.Setup.Logging
import Federation.Workers
