import ApiGateway.Main
import ApiGateway.Launching.System
import ApiGateway.Proxy.RawPeer
import ApiGateway.Proxy.Chunks
import ApiGateway.Proofs.Forwarding.StraightRun
import ApiGateway.Proofs.Proxy.Slots
import ApiGateway.Proofs.Proxy.Replies
import ApiGateway.Proofs.Proxy.Answers
import ApiGateway.Proofs.Forwarding.Descent
import ApiGateway.Proofs.Graph.Reordering
import ApiGateway.Proofs.Forwarding.Reordering
import ApiGateway.Proofs.Serving.Agreement
import ApiGateway.Proofs.Proxy.PeerCalls
import ApiGateway.Proofs.Proxy.Cutting
import ApiGateway.Proofs.Json.Quoting
import ApiGateway.Proofs.Serving.Routing
import ApiGateway.Proofs.Forwarding.Provenance
import ApiGateway.Proofs.Serving.Compiled
import ApiGateway.Proofs.Serving.Handling
import ApiGateway.Proofs.Serving.Requests
import ApiGateway.Proofs.Forwarding.Endings
import ApiGateway.Proofs.Forwarding.GraphCheck
import ApiGateway.Proofs.Forwarding.Rejection
import ApiGateway.Proofs.Serving.Planning
import ApiGateway.Proofs.Proxy.Announcing
import ApiGateway.Proofs.Schema.Saving
import ApiGateway.Proofs.Forwarding.Delivery
import ApiGateway.Proofs.Graph.Drawing
import ApiGateway.Proofs.Graph.Levels
import ApiGateway.Proofs.Value.Locating
import ApiGateway.Proofs.Value.Normalising
import ApiGateway.Proofs.Value.Writing
import ApiGateway.Proofs.Value.Bounds
import ApiGateway.Proofs.Validation.Sharing
import ApiGateway.Proofs.Forwarding.Containment
import ApiGateway.Proofs.Expression.RoundTrip
import ApiGateway.Proofs.Expression.Rendering
import ApiGateway.Proofs.Expression.Conditions
import ApiGateway.Proofs.Proxy.Openings
import ApiGateway.Proofs.Value.Converting
import ApiGateway.Proofs.Validation.Satisfying
import ApiGateway.Proofs.Schema.Joining
import ApiGateway.Proofs.Value.Grouping
import ApiGateway.Proofs.Forwarding.Nesting
import ApiGateway.Proofs.Forwarding.Outgoing
import ApiGateway.Proofs.Graph.Legible
import ApiGateway.Proofs.Serving.Waiting
