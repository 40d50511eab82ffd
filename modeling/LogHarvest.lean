import LogHarvest.Main
import LogHarvest.Proofs.Activity
import LogHarvest.Proofs.Batch.Runs
import LogHarvest.Proofs.Agreement
import LogHarvest.Proofs.Batch.Isolation
import LogHarvest.Proofs.Queue.Handover
import LogHarvest.Proofs.Catalog.LastAccepted
import LogHarvest.Proofs.Queue.Redelivery
import LogHarvest.Proofs.Worker.Custody
import LogHarvest.Proofs.Worker.Secrecy
import LogHarvest.Proofs.Json.Grammar
import LogHarvest.Proofs.Json.Members
import LogHarvest.Proofs.Worker.References
import LogHarvest.Proofs.Catalog.Startup
import LogHarvest.Proofs.CommandLine.Processing
import LogHarvest.Proofs.Queue.Stopping
import LogHarvest.Proofs.Worker.Tokens
import LogHarvest.Proofs.Batch.Tally
import LogHarvest.Proofs.CommandLine.Listing
import LogHarvest.Proofs.Worker.Warm
import LogHarvest.Proofs.Archive.Outcomes
import LogHarvest.Proofs.Connector.History
import LogHarvest.Proofs.Batch.Timetable
import LogHarvest.Proofs.Requests
import LogHarvest.Proofs.Queue.Deleting
import LogHarvest.Proofs.Queue.Consuming
import LogHarvest.Proofs.Worker.Permits
import LogHarvest.Proofs.Connector.Preparing
import LogHarvest.Proofs.Catalog.Completeness
import LogHarvest.Proofs.Archive.Streams
import LogHarvest.Proofs.Connector.Stored
